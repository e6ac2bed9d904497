import Initialism.Proofs.Match.Consumed

/-! The initials of a match. Each is the letter that its item takes, up to case: a wildcard has the
letter itself, and a word has its own first character. -/
namespace Initialism
open List

def Pattern.initials (p : Pattern) : List Char :=
  p.nodes.filterMap fun
    | .literal w => w.toList.head?
    | _ => none

/-- What an initial may be where the letter `c` is taken. -/
def Pattern.Begins (p : Pattern) (c d : Char) : Prop :=
  Text.sameLetter c d = true ∧ (d = c ∨ d ∈ p.initials)

theorem Pattern.Contributes.begins {p : Pattern} {i : Item} {c : Char} (h : p.Contributes i c) :
    ∃ d, i.initial? = some d ∧ p.Begins c d := by
  obtain ⟨hl, ht⟩ := h
  cases i with
  | word w =>
    obtain ⟨d, hd, hc⟩ := ht
    exact ⟨d, hd, hc, .inr (mem_filterMap.2 ⟨.literal w, hl, hd⟩)⟩
  | letter d =>
    obtain rfl : d = c := ht
    exact ⟨d, rfl, Text.sameLetter_refl d, .inl rfl⟩

theorem Spells.forall₂_begins {p : Pattern} {u : List Char} {is : List Item} (h : Spells p u is) :
    Forall₂ p.Begins u (is.filterMap Item.initial?) := by
  have hg := h.forall₂_contributes
  clear h
  induction hg with
  | nil => exact .nil
  | cons hi _ ih =>
    obtain ⟨d, hd, hb⟩ := hi.begins
    rw [filterMap_cons_some hd]
    exact .cons hb ih

theorem forall_of_forall₂_begins {p : Pattern} {P : Char → Prop} {u ds : List Char}
    (h : Forall₂ p.Begins u ds) (hu : ∀ c ∈ u, P c) (hp : ∀ d ∈ p.initials, P d) :
    ∀ d ∈ ds, P d := by
  induction h with
  | nil => simp
  | cons hb _ ih =>
    obtain ⟨hc, hu⟩ := forall_mem_cons.1 hu
    refine forall_mem_cons.2 ⟨?_, ih hu⟩
    cases hb.2 with
    | inl hd => exact hd ▸ hc
    | inr hd => exact hp _ hd

end Initialism
