import Initialism.Proofs.Run.Repeats
import Initialism.Proofs.Text.Images

/-! The names of the matches that leave nothing of a word. Where a word of the pattern takes a
letter, the name has the pattern's own initial, of which only the lower case is known to be the
same. So is the upper case, except for the Kelvin sign, in whose place there is a K. All other
matches are named as the word is spelled, and the guard recognises words that come again. -/
namespace Initialism
open List

def Match.WordForKelvin (m : Match) (w : String) : Prop :=
  ∃ t, (Item.word t, Text.kelvinSign) ∈ m.items.zip w.toList

namespace Pattern

def AvoidsKelvin (p : Pattern) (w : String) : Prop :=
  ∀ m ∈ (p.spellings (.ofString w)).toList, ¬ m.WordForKelvin w

variable {p : Pattern} {i : Item} {c : Char} {is : List Item} {cs : List Char} {w : String}

/-- An item puts into the name as many characters as stand in the upper case of the letter that it
takes, and the same ones unless it is a word that takes a Kelvin sign. -/
theorem Contributes.upper_initial (hp : p.HasAsciiInitials) (h : p.Contributes i c) :
    ∃ d, i.initial? = some d ∧ (Text.upper d).length = (Text.upper c).length ∧
      (Text.upper d = Text.upper c ↔ ∀ t, (i, c) ≠ (.word t, Text.kelvinSign)) := by
  obtain ⟨hl, ht⟩ := h
  cases i with
  | letter d =>
    obtain rfl : d = c := ht
    exact ⟨d, rfl, rfl, by simp⟩
  | word v =>
    obtain ⟨d, hd, hc⟩ := ht
    have hd' : Text.isAscii d := hp d (mem_filterMap.2 ⟨.literal v, hl, hd⟩)
    obtain ⟨hlen, hu⟩ := Text.upper_of_sameLetter hc hd'
    exact ⟨d, hd, hlen.symm, by simp [hu]⟩

theorem flatMap_upper_initials (hp : p.HasAsciiInitials) (h : Forall₂ p.Contributes is cs) :
    (is.filterMap Item.initial?).flatMap Text.upper = cs.flatMap Text.upper ↔
      ∀ t, (Item.word t, Text.kelvinSign) ∉ is.zip cs := by
  induction h with
  | nil => simp
  | @cons i c is cs hi _ ih =>
    obtain ⟨d, hd, hlen, hu⟩ := hi.upper_initial hp
    -- The lengths agree, so the two texts can be compared item by item.
    have happ : Text.upper d ++ (is.filterMap Item.initial?).flatMap Text.upper =
        Text.upper c ++ cs.flatMap Text.upper ↔ Text.upper d = Text.upper c ∧
          (is.filterMap Item.initial?).flatMap Text.upper = cs.flatMap Text.upper := by
      constructor
      · intro h
        exact append_inj h hlen
      · intro h
        rw [h.1, h.2]
    rw [filterMap_cons_some hd, flatMap_cons, flatMap_cons, happ, hu, ih, ← forall_and]
    simp only [zip_cons_cons, mem_cons, not_or, ne_comm]

theorem name_eq_upperText_iff (hp : p.HasAsciiInitials) {m : Match}
    (h : m ∈ (p.spellings (.ofString w)).toList) :
    m.name = Text.upperText w ↔ ¬ m.WordForKelvin w := by
  have hc := (spells_of_mem_spellings h).forall₂_contributes
  rw [Letters.ofString, Letters.toList_ofList] at hc
  rw [Match.name, Text.upperText, String.ofList_inj, flatMap_upper_initials hp hc,
    Match.WordForKelvin, not_exists]

theorem avoidsKelvin_of_notMem (h : Text.kelvinSign ∉ w.toList) : p.AvoidsKelvin w := by
  intro m _ hk
  obtain ⟨t, ht⟩ := hk
  exact h (of_mem_zip ht).2

theorem namesSpelled_of_avoidsKelvin (hp : p.HasAsciiInitials) {ws : List String}
    (hws : ∀ w ∈ ws, p.AvoidsKelvin w) : p.NamesSpelled ws := by
  intro w hw a ha
  obtain ⟨m, hm, rfl⟩ := mem_map.1 ha
  exact (name_eq_upperText_iff hp hm).2 (hws w hw m hm)

structure NamesMatches (root : Pattern) : Prop where
  name_iff : ∀ w, ∀ m ∈ (root.spellings (.ofString w)).toList,
    m.name = Text.upperText w ↔ ¬ m.WordForKelvin w
  name_eq : ∀ w, Text.kelvinSign ∉ w.toList → ∀ m ∈ (root.spellings (.ofString w)).toList,
    m.name = Text.upperText w
  mem_names : ∀ words, (∀ w ∈ words, root.AvoidsKelvin w) → ∀ k x, x ∈ root.namesOver words k ↔
    ∃ w ∈ words, Text.upperText w = x ∧ k ≤ w.length ∧ (root.spellings (.ofString w)).toList ≠ []
  /-- Acronyms of words at different places have different names: of the words with one spelling,
  the guard lets one pass only. -/
  apart : ∀ words, (∀ w ∈ words, root.AvoidsKelvin w) → ∀ k n,
    ∀ o ∈ (Run.overWords root words k).observe n,
    ∀ o' ∈ (Run.overWords root words k).observe n, o.Apart o'

/-- A pattern that was read names its matches after the words, but for Kelvin signs. -/
theorem namesMatches_of_parse {source : String} {root : Pattern} (h : parse source = .ok root) :
    root.NamesMatches := by
  have hp := hasAsciiInitials_of_isWellFormed (isWellFormed_of_parse h)
  constructor
  case name_iff => exact fun w m hm => name_eq_upperText_iff hp hm
  case name_eq =>
    intro w hw m hm
    exact (name_eq_upperText_iff hp hm).2 (avoidsKelvin_of_notMem hw m hm)
  case mem_names =>
    intro words hw k x
    exact mem_namesOver_iff (namesSpelled_of_avoidsKelvin hp hw) k x
  case apart =>
    intro words hw k n o ho o' ho' a a' ha ha'
    have hn : root.NamesSpelled words := namesSpelled_of_avoidsKelvin hp hw
    have hoe := Run.mem_eager_of_mem_observe root words k ho ha
    have hoe' := Run.mem_eager_of_mem_observe root words k ho' ha'
    exact apart_of_mem_eager hn hoe hoe' a a' ha ha'

theorem namesMatches_kit :
    let root := group .oneOf [literal "kit", wildcard]
    parse "(kit .)" = .ok root ∧ root.NamesMatches ∧
      (root.acronymsOf "\u212a").map Acronym.name = ["K", "\u212a"] := by
  intro root
  have hr : parse "(kit .)" = .ok root := by
    rw [parse_eq_outcome]
    rfl
  exact ⟨hr, namesMatches_of_parse hr, by decide⟩

/-- The word takes the Kelvin sign but is named K. The guard does not know the spelling when it
comes again. -/
theorem name_ne_upperText_kit :
    parse "kit" = .ok (literal "kit") ∧
      ((literal "kit").spellings (.ofString "\u212a")).toList.map Match.name = ["K"] ∧
      Text.upperText "\u212a" = "\u212a" ∧
      (literal "kit").namesOver ["\u212a", "\u212a"] 1 = ["K", "K"] := by
  have hr : parse "kit" = .ok (literal "kit") := by
    rw [parse_eq_outcome]
    rfl
  have hn : (literal "kit").namesOver ["\u212a", "\u212a"] 1 = ["K", "K"] := by
    rw [namesOver, acronymsOver_eq_gives]
    decide
  exact ⟨hr, by decide, by decide +kernel, hn⟩

end Pattern
end Initialism
