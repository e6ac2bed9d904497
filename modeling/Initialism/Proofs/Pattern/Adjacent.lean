import Initialism.Proofs.Pattern.RoundTrip

/-! Texts side by side. What a text is read as does not depend on where it begins, and a character
that is no letter keeps the words before it apart from what follows. So expressions with blanks
between them are one expression, and its terms are the terms of all of them. -/
namespace Initialism
open List

namespace Entry
variable {v w cs ds : List Char} {c : Char} {xs ys : List Symbol}

theorem map_symbol?_word? (pos pos' : Nat) (w : List Char) :
    (word? pos w).toList.map symbol? = (word? pos' w).toList.map symbol? := by
  cases w <;> rfl

theorem map_symbol?_ofChar? (pos pos' : Nat) (c : Char) :
    (ofChar? pos c).toList.map symbol? = (ofChar? pos' c).toList.map symbol? := by
  rw [ofChar?, ofChar?]
  split
  · rfl
  · split <;> rfl

theorem map_symbol?_scan (pos pos' : Nat) (w cs : List Char) :
    (scan pos w cs).map symbol? = (scan pos' w cs).map symbol? := by
  induction cs generalizing pos pos' w with
  | nil => exact map_symbol?_word? pos pos' w
  | cons c cs ih =>
    rw [scan, scan]
    split
    · exact ih (pos + 1) (pos' + 1) (c :: w)
    · simp only [map_append, map_symbol?_word? pos pos' w, map_symbol?_ofChar? pos pos' c,
        ih (pos + c.utf8Size) (pos' + c.utf8Size) []]

theorem show_congr {es us : List Entry} (h : es.map symbol? = us.map symbol?) :
    Show es xs ↔ Show us xs := by
  rw [Show, Show, h]

theorem reads_of_show {pos : Nat} (h : Show (scan pos [] cs) xs) : Reads cs xs := by
  intro pos'
  exact (show_congr (map_symbol?_scan pos pos' [] cs)).1 h

/-- A text before which a word ends adds its own symbols to those of what stands before it. -/
theorem map_symbol?_scan_append (he : EndsWord ds) (pos : Nat) (w cs : List Char) :
    (scan pos w (cs ++ ds)).map symbol? =
      (scan pos w cs).map symbol? ++ (scan 0 [] ds).map symbol? := by
  induction cs generalizing pos w with
  | nil =>
    rw [nil_append, he.scan_eq, map_append, map_symbol?_scan pos 0 [] ds]
    rfl
  | cons c cs ih =>
    rw [cons_append, scan, scan]
    split
    · exact ih (pos + 1) (c :: w)
    · simp only [map_append, append_assoc, ih (pos + c.utf8Size) []]

theorem Reads.append (hc : Reads cs xs) (hd : Reads ds ys) (he : EndsWord ds) :
    Reads (cs ++ ds) (xs ++ ys) := by
  intro pos
  rw [Show, map_symbol?_scan_append he, map_append, hc pos, hd 0]

end Entry

namespace Pattern
open Entry (Reads)
variable {source source' : String} {es : List String} {ts us : List Pattern}

/-- The text has the terms `ts`, and nothing in it is not part of a term. -/
structure IsRead (source : String) (ts : List Pattern) : Prop where
  reads : Reads source.toList (ts.flatMap symbols)
  ne_nil : ts ≠ []
  wellFormed : ∀ t ∈ ts, t.isWellFormed

theorem IsRead.isWrittenAs (h : IsRead source ts) : IsWrittenAs source ts :=
  ⟨h.ne_nil, h.wellFormed, (Entry.show_iff.1 (h.reads 0)).2⟩

theorem IsRead.parse_eq (h : IsRead source ts) : parse source = .ok (joined ts) :=
  parse_of_show h.ne_nil h.wellFormed (h.reads 0)

theorem exists_isRead_of_parse {p : Pattern} (h : parse source = .ok p) :
    ∃ ts, IsRead source ts ∧ p = joined ts := by
  obtain ⟨ts, hs, hw, hp⟩ := exists_isWrittenAs_of_parse h
  exact ⟨ts, ⟨Entry.reads_of_show hs, hw.ne_nil, hw.wellFormed⟩, hp⟩

theorem IsRead.eq_of_isWrittenAs (h : IsRead source ts)
    (hu : IsWrittenAs source us) : ts = us :=
  eq_of_flatMap_symbols_eq h.wellFormed hu.wellFormed
    (h.isWrittenAs.symbols_eq.symm.trans hu.symbols_eq)

theorem IsRead.append (h : IsRead source ts) (h' : IsRead source' us) :
    IsRead (source ++ " " ++ source') (ts ++ us) := by
  refine ⟨?_, append_ne_nil_of_left_ne_nil h.ne_nil us, forall_mem_append.2 ⟨h.wellFormed, h'.wellFormed⟩⟩
  have hl : (source ++ " " ++ source').toList = source.toList ++ ' ' :: source'.toList := by simp
  rw [hl, flatMap_append]
  exact h.reads.append h'.reads.blank (Entry.endsWord_cons.2 (by decide))

theorem IsRead.intercalate {terms : String → List Pattern} (h : ∀ e ∈ es, IsRead e (terms e))
    (hn : es ≠ []) : IsRead (" ".intercalate es) (es.flatMap terms) := by
  induction es with
  | nil => exact absurd rfl hn
  | cons e es ih =>
    obtain ⟨he, hes⟩ := forall_mem_cons.1 h
    cases es with
    | nil => simpa using he
    | cons e' es =>
      rw [String.intercalate_cons_cons, flatMap_cons]
      exact he.append (ih hes (cons_ne_nil e' es))

end Pattern
end Initialism
