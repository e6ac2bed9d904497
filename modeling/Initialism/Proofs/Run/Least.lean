import Initialism.Proofs.Run.Words

/-! Asking for longer acronyms. A word that is passed over as too short hands out no names, and
names only matter to words that are spelled as them. So with more letters asked for the longer
acronyms stay as they are, unless a shorter one has a name that a longer word is spelled as. -/
namespace Initialism
open List

namespace Pattern

/-- No word with `n` letters or more is spelled as the name of an acronym with fewer. -/
def KeepsApart (root : Pattern) (words : List String) (m n : Nat) : Prop :=
  ∀ a ∈ root.acronymsOver words m, a.items.length < n →
    ∀ w ∈ words, n ≤ w.length → a.name ≠ Text.upperText w

def KeepsLetters (root : Pattern) (words : List String) : Prop :=
  (∀ w ∈ words, ∀ c ∈ w.toList, (Text.upper c).length = 1) ∧
    ∀ d ∈ root.initials, (Text.upper d).length = 1

variable {p : Pattern} {m n : Nat} {g g' ws : List String} {w : String} {a : Acronym}

theorem given_eq_of_le (hm : m ≤ w.length) (hn : n ≤ w.length)
    (hg : Text.upperText w ∈ g ↔ Text.upperText w ∈ g') : p.given n g' w = p.given m g w := by
  simp only [given, hg, Nat.not_lt.2 hm, Nat.not_lt.2 hn]

theorem given_filter_of_le (h : n ≤ w.length) :
    (p.given m g w).filter (n ≤ ·.items.length) = p.given m g w := by
  refine filter_eq_self.2 fun a ha => ?_
  rw [length_items_of_mem_acronymsOf (mem_given.1 ha).2.2]
  exact decide_eq_true h

theorem given_filter_of_lt (h : w.length < n) :
    (p.given m g w).filter (n ≤ ·.items.length) = [] := by
  refine filter_eq_nil_iff.2 fun a ha => ?_
  rw [length_items_of_mem_acronymsOf (mem_given.1 ha).2.2]
  simpa using h

theorem given_eq_nil_of_lt (h : w.length < n) : p.given n g w = [] := if_pos (.inr h)

/-- Two runs whose guards agree on the longer words go on to give the same longer acronyms. -/
theorem gives_filter (h : m ≤ n) (hg : ∀ w ∈ ws, n ≤ w.length →
      (Text.upperText w ∈ g ↔ Text.upperText w ∈ g'))
    (hs : ∀ a ∈ p.gives m g ws, a.items.length < n → ∀ w ∈ ws, n ≤ w.length →
      a.name ≠ Text.upperText w) :
    p.gives n g' ws = (p.gives m g ws).filter (n ≤ ·.items.length) := by
  induction ws generalizing g g' with
  | nil => rfl
  | cons w ws ih =>
    obtain ⟨hgw, hgws⟩ := forall_mem_cons.1 hg
    have hlater : ∀ a ∈ p.gives m (g ++ (p.given m g w).map Acronym.name) ws,
        a.items.length < n → ∀ v ∈ ws, n ≤ v.length → a.name ≠ Text.upperText v :=
      fun a ha hl v hv => hs a (mem_append_right _ ha) hl v (mem_cons_of_mem w hv)
    rw [gives, gives, filter_append]
    -- A longer word gives the same in both runs. A shorter one gives something in one of them at
    -- most, and by `hs` the names it leaves in the guard keep no longer word out.
    by_cases hw : n ≤ w.length
    · have he : p.given n g' w = p.given m g w := given_eq_of_le (h.trans hw) hw (hgw hw)
      rw [he, given_filter_of_le hw, ih (fun v hv hl => ?_) hlater]
      rw [mem_append, mem_append, hgws v hv hl]
    · have hlt : w.length < n := Nat.not_le.1 hw
      rw [given_eq_nil_of_lt hlt, given_filter_of_lt hlt, ih (fun v hv hl => ?_) hlater]
      have hn : Text.upperText v ∉ (p.given m g w).map Acronym.name := by
        intro hx
        obtain ⟨a, ha, hx⟩ := mem_map.1 hx
        refine hs a (mem_append_left _ ha) ?_ v (mem_cons_of_mem w hv) hl hx
        rwa [length_items_of_mem_acronymsOf (mem_given.1 ha).2.2]
      simp [hn, hgws v hv hl]

theorem length_flatMap_upper {u : List Char} (h : ∀ c ∈ u, (Text.upper c).length = 1) :
    (u.flatMap Text.upper).length = u.length := by
  rw [length_flatMap, map_congr_left h]
  simp

theorem KeepsLetters.keepsApart (h : p.KeepsLetters ws) : p.KeepsApart ws m n := by
  intro a ha hl w hw hn hname
  rw [acronymsOver_eq_gives] at ha
  obtain ⟨v, hv, ha⟩ := exists_mem_acronymsOf_of_mem_gives ha
  obtain ⟨ds, hds, hd⟩ := exists_begins_of_mem_acronymsOf ha
  have hu : ∀ d ∈ ds, (Text.upper d).length = 1 := forall_of_forall₂_begins hds (h.1 v hv) h.2
  have hlen : ds.length = w.length := by
    rw [← length_flatMap_upper hu, ← String.length_ofList, ← hd, hname, Text.upperText,
      String.length_ofList, length_flatMap_upper (h.1 w hw), String.length_toList]
  rw [length_items_of_mem_acronymsOf ha, ← String.length_toList, hds.length_eq, hlen] at hl
  omega

/-- Asked for at least `n` letters instead of `m`, a run over the same words gives its acronyms of
at least `n` letters and no others, in the same order, if no word of that length is spelled as the
name of a shorter acronym. Where upper case has a letter for each letter, none is. -/
theorem acronymsOver_raise (root : Pattern) (words : List String) (m n : Nat) (h : m ≤ n) :
    (root.KeepsApart words m n →
      root.acronymsOver words n = (root.acronymsOver words m).filter (n ≤ ·.items.length)) ∧
    (root.KeepsLetters words → root.KeepsApart words m n) := by
  refine ⟨fun hs => ?_, KeepsLetters.keepsApart⟩
  simp only [KeepsApart, acronymsOver_eq_gives] at hs ⊢
  exact gives_filter h (fun _ _ _ => Iff.rfl) hs

theorem acronymsOver_raise_of_one_letter :
    let root := group .sequence [wildcard, optional (literal "it")]
    root.KeepsApart ["ß", "si", "Si", "i"] 1 2 ∧
      root.acronymsOver ["ß", "si", "Si", "i"] 1 =
        [⟨"SS", ["ß"]⟩, ⟨"SI", ["s", "it"]⟩, ⟨"I", ["i"]⟩] ∧
      root.acronymsOver ["ß", "si", "Si", "i"] 2 = [⟨"SI", ["s", "it"]⟩] := by
  intro root
  have hm : root.acronymsOver ["ß", "si", "Si", "i"] 1 =
      [⟨"SS", ["ß"]⟩, ⟨"SI", ["s", "it"]⟩, ⟨"I", ["i"]⟩] := by
    rw [acronymsOver_eq_gives]
    decide
  have hs : root.KeepsApart ["ß", "si", "Si", "i"] 1 2 := by
    rw [KeepsApart, hm]
    decide
  refine ⟨hs, hm, ?_⟩
  rw [(acronymsOver_raise root _ 1 2 (by decide)).1 hs, hm]
  rfl

/-- A sharp s in upper case is the name of an acronym of one letter and the spelling of a word of
two, which is given only if the former is too short. -/
theorem acronymsOver_ne_filter :
    let root := group .sequence [wildcard, optional wildcard]
    root.acronymsOver ["ß", "ss"] 1 = [⟨"SS", ["ß"]⟩] ∧
      root.acronymsOver ["ß", "ss"] 2 = [⟨"SS", ["s", "s"]⟩] ∧
      root.acronymsOver ["ß", "ss"] 2 ≠
        (root.acronymsOver ["ß", "ss"] 1).filter (2 ≤ ·.items.length) := by
  intro root
  have hm : root.acronymsOver ["ß", "ss"] 1 = [⟨"SS", ["ß"]⟩] := by
    rw [acronymsOver_eq_gives]
    decide
  have hn : root.acronymsOver ["ß", "ss"] 2 = [⟨"SS", ["s", "s"]⟩] := by
    rw [acronymsOver_eq_gives]
    decide
  refine ⟨hm, hn, ?_⟩
  rw [hm, hn]
  decide

end Pattern
end Initialism
