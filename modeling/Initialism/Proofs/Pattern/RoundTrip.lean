import Initialism.Proofs.Pattern.Grammar

/-! Rendering against reading. The text of a well-formed pattern has the symbols that the pattern is
written with: a blank or a bracket ends each of its words, so no two of them run together. It is
therefore read as that pattern, and what is read is always well formed. -/
namespace Initialism
namespace Entry

/-- Wherever the text begins, its entries are tokens, and their symbols are `xs`. -/
def Reads (cs : List Char) (xs : List Symbol) : Prop := ∀ pos, Show (scan pos [] cs) xs

def EndsWord (cs : List Char) : Prop := ∀ c ∈ cs.head?, ¬ c.isAlpha

variable {v w cs : List Char} {c : Char} {xs : List Symbol} {k : Token.Kind}

theorem reads_nil : Reads [] [] := fun _ => rfl

theorem endsWord_nil : EndsWord [] := by simp [EndsWord]

@[simp] theorem endsWord_cons : EndsWord (c :: cs) ↔ ¬ c.isAlpha := by simp [EndsWord]

theorem EndsWord.scan_eq (h : EndsWord cs) (pos : Nat) (v : List Char) :
    scan pos v cs = (word? pos v).toList ++ scan pos [] cs := by
  cases cs with
  | nil => exact (List.append_nil _).symm
  | cons c cs =>
    have hc := endsWord_cons.1 h
    rw [scan, scan, if_neg hc, if_neg hc, List.append_assoc]
    rfl

theorem Reads.show_scan (h : Reads cs xs) (he : EndsWord cs) (hw : ∀ c ∈ w, c.isAlpha)
    (hn : v.reverse ++ w ≠ []) (pos : Nat) :
    Show (scan pos v (w ++ cs)) (⟨.word, String.ofList (v.reverse ++ w)⟩ :: xs) := by
  induction w generalizing pos v with
  | nil =>
    rw [List.append_nil] at hn ⊢
    rw [List.nil_append, he.scan_eq]
    cases v with
    | nil => exact absurd rfl hn
    | cons c v => exact show_cons.2 ⟨_, _, rfl, rfl, h pos⟩
  | cons c w ih =>
    obtain ⟨hc, hw⟩ := List.forall_mem_cons.1 hw
    rw [List.cons_append, scan, if_pos hc]
    simpa using ih (v := c :: v) hw (by simp) (pos + 1)

theorem Reads.word {w : String} (h : Reads cs xs) (he : EndsWord cs)
    (hw : ∀ c ∈ w.toList, c.isAlpha) (hn : w ≠ "") : Reads (w.toList ++ cs) (⟨.word, w⟩ :: xs) := by
  intro pos
  simpa using h.show_scan (v := []) he hw (by simpa using hn) pos

theorem Reads.blank (h : Reads cs xs) : Reads (' ' :: cs) xs := by
  intro pos
  exact h (pos + 1)

theorem not_isAlpha_of_char? (h : k.char? = some c) : ¬ c.isAlpha ∧ ¬ c.isWhitespace := by
  cases k with
  | opening g => cases g <;> cases h <;> decide
  | closing g => cases g <;> cases h <;> decide
  | question => cases h; decide
  | period => cases h; decide
  | word => cases h

theorem Reads.mark (h : Reads cs xs) (hk : k.char? = some c) :
    Reads (c :: cs) (⟨k, c.toString⟩ :: xs) := by
  intro pos
  obtain ⟨ha, hb⟩ := not_isAlpha_of_char? hk
  have he : ofChar? pos c = some (.token ⟨k, c.toString, pos⟩) := by
    rw [ofChar?, if_neg hb, Token.Kind.ofChar?_eq_some.2 hk]
  rw [scan, if_neg ha, he]
  exact show_cons.2 ⟨_, _, rfl, rfl, h _⟩

end Entry

namespace Pattern
open Entry (Reads EndsWord endsWord_cons not_isAlpha_of_char? show_iff)

variable {ts : List Pattern}

mutual
theorem reads_chars : ∀ {p : Pattern} {cs : List Char} {xs : List Symbol}, p.isWellFormed →
    Reads cs xs → EndsWord cs → Reads (p.chars ++ cs) (p.symbols ++ xs)
  | .literal w, cs, xs, hp, h, he => by
    obtain ⟨hn, hw⟩ : w ≠ "" ∧ ∀ c ∈ w.toList, c.isAlpha := by
      simpa [isWellFormed] using hp
    exact h.word he hw hn
  | .wildcard, cs, xs, _, h, _ => h.mark (k := .period) rfl
  | .optional p, cs, xs, hp, h, _ => by
    -- The text is read from its end, so that a word always has the mark in hand that ends it.
    have hm : Reads ('?' :: cs) (⟨.question, "?"⟩ :: xs) := h.mark rfl
    rw [chars, symbols, List.append_assoc, List.append_assoc]
    exact reads_chars (p := p) hp hm (endsWord_cons.2 (by decide))
  | .group g ps, cs, xs, hp, h, _ => by
    obtain ⟨-, hps⟩ : ps ≠ [] ∧ areWellFormed ps := by
      simpa [isWellFormed] using hp
    have hm : Reads (g.closing :: cs) (⟨.closing g, g.closing.toString⟩ :: xs) := h.mark rfl
    have hc : EndsWord (g.closing :: cs) :=
      endsWord_cons.2 (not_isAlpha_of_char? (k := .closing g) rfl).1
    have hs := (reads_spaced hps hm hc).mark (k := .opening g) rfl
    simpa [chars, symbols] using hs
theorem reads_spaced : ∀ {ps : List Pattern} {cs : List Char} {xs : List Symbol},
    areWellFormed ps → Reads cs xs → EndsWord cs →
      Reads (spaced ps ++ cs) (symbolsOf ps ++ xs)
  | [], cs, xs, _, h, _ => h
  | [p], cs, xs, hp, h, he => by
    have hp : p.isWellFormed := by simpa [areWellFormed] using hp
    simpa [spaced, symbolsOf] using reads_chars hp h he
  | p :: q :: ps, cs, xs, hp, h, he => by
    obtain ⟨hp, hps⟩ : p.isWellFormed ∧ areWellFormed (q :: ps) := by
      rw [areWellFormed] at hp
      simpa using hp
    have hq := (reads_spaced hps h he).blank
    rw [spaced, symbolsOf, List.append_assoc, List.append_assoc]
    exact reads_chars hp hq (endsWord_cons.2 (by decide))
end

theorem parse_render_of_isWellFormed {p : Pattern} (h : p.isWellFormed) :
    parse p.render = .ok p := by
  have hr : Reads (p.chars ++ []) (p.symbols ++ []) :=
    reads_chars h Entry.reads_nil Entry.endsWord_nil
  have ht : Entry.Show (tokenize p.render) ([p].flatMap symbols) := by
    simpa [tokenize, render] using hr 0
  have hp : parse p.render = .ok (joined [p]) := parse_of_show (by simp) (by simpa using h) ht
  exact hp

theorem isWellFormed_joined (hn : ts ≠ []) (hw : ∀ t ∈ ts, t.isWellFormed) :
    (joined ts).isWellFormed := by
  match ts with
  | [p] => exact hw p (by simp)
  | p :: p' :: ts => simpa [joined, isWellFormed] using hw

theorem isWellFormed_of_parse {source : String} {p : Pattern} (h : parse source = .ok p) :
    p.isWellFormed := by
  obtain ⟨ts, -, ht, rfl⟩ := exists_isWrittenAs_of_parse h
  exact isWellFormed_joined ht.ne_nil ht.wellFormed

theorem isWellFormed_of_mem_nodes {p q : Pattern} (hp : p.isWellFormed) (hq : q ∈ p.nodes) :
    q.isWellFormed := by
  induction p with
  | literal w =>
    obtain rfl := List.mem_singleton.1 hq
    exact hp
  | wildcard =>
    obtain rfl := List.mem_singleton.1 hq
    exact hp
  | optional p ih =>
    cases List.mem_cons.1 hq with
    | inl hq => exact hq ▸ hp
    | inr hq => exact ih hp hq
  | group g ps ih =>
    obtain ⟨-, hps⟩ : ps ≠ [] ∧ ∀ p ∈ ps, p.isWellFormed := by
      simpa [isWellFormed] using hp
    rw [nodes, nodesOf_eq] at hq
    cases List.mem_cons.1 hq with
    | inl hq => exact hq ▸ hp
    | inr hq =>
      obtain ⟨p, hm, hq⟩ := List.mem_flatMap.1 hq
      exact ih p hm (hps p hm) hq

def normalize (source : String) : Except Fault String := (parse source).map render

/-- Well-formed patterns are those that are read back from their own text, and those that some text
is read as. So an expression written anew is read as before, and to write it anew once more changes
nothing. -/
theorem parse_render :
    (∀ p : Pattern, p.isWellFormed ↔ parse p.render = .ok p) ∧
    (∀ p : Pattern, p.isWellFormed ↔ ∃ source, parse source = .ok p) ∧
    ∀ source, (normalize source).bind parse = parse source ∧
      (normalize source).bind normalize = normalize source := by
  refine ⟨fun p => ⟨parse_render_of_isWellFormed, isWellFormed_of_parse⟩,
    fun p => ⟨fun h => ⟨_, parse_render_of_isWellFormed h⟩, fun h => ?_⟩, fun source => ?_⟩
  · obtain ⟨source, h⟩ := h
    exact isWellFormed_of_parse h
  · cases h : parse source with
    | error f => simp [normalize, h, Except.map, Except.bind]
    | ok p =>
      have hp := parse_render_of_isWellFormed (isWellFormed_of_parse h)
      simp [normalize, h, hp, Except.map, Except.bind]

example : normalize "a[ b c ]? ?" = .ok "\x7ba [b c]??\x7d" := by
  rw [normalize, parse_eq_outcome]
  rfl

end Pattern
end Initialism
