import Mathlib.Algebra.GroupWithZero.Nat
import Mathlib.Algebra.Order.BigOperators.Group.List
import Mathlib.Algebra.Order.Group.Nat
import Initialism.Proofs.Match.Spells

/-! How many letters a pattern can take. Its least and greatest lengths bound every word it spells,
so no word outside them has a match that leaves nothing. -/
namespace Initialism
open List

namespace Pattern

theorem total_eq_sum (ns : List Nat) : total ns = ns.sum := rfl

section
variable {g : Group} (ps : List Pattern)

theorem minLength_group (hg : g = .sequence ∨ g = .allOf) :
    (group g ps).minLength = (ps.map minLength).sum := by
  rcases hg with rfl | rfl <;> rw [minLength, minLengths_eq, total_eq_sum]

theorem minLength_oneOf : (group .oneOf ps).minLength = (ps.map minLength).min?.getD 0 := by
  rw [minLength, minLengths_eq]

theorem maxLength_group (hg : g ≠ .oneOf) : (group g ps).maxLength = (ps.map maxLength).sum := by
  cases g with
  | oneOf => exact absurd rfl hg
  | _ => rw [maxLength, maxLengths_eq, total_eq_sum]

theorem maxLength_oneOf : (group .oneOf ps).maxLength = (ps.map maxLength).max?.getD 0 := by
  rw [maxLength, maxLengths_eq]

end

def Fits (p : Pattern) (n : Nat) : Prop := p.minLength ≤ n ∧ n ≤ p.maxLength

end Pattern

theorem sum_bounds_of_fits {parts : List Part} (h : ∀ q ∈ parts, q.child.Fits q.letters.length) :
    ((parts.map Part.child).map Pattern.minLength).sum ≤ (parts.flatMap Part.letters).length ∧
      (parts.flatMap Part.letters).length ≤
        ((parts.map Part.child).map Pattern.maxLength).sum := by
  induction parts with
  | nil => simp
  | cons q parts ih =>
    obtain ⟨hq, hps⟩ := forall_mem_cons.1 h
    have hi := ih hps
    simp only [map_cons, sum_cons, flatMap_cons, length_append]
    exact ⟨Nat.add_le_add hq.1 hi.1, Nat.add_le_add hq.2 hi.2⟩

theorem sum_map_le_of_subperm {ps qs : List Pattern} (f : Pattern → Nat) (h : qs <+~ ps) :
    (qs.map f).sum ≤ (ps.map f).sum := by
  obtain ⟨l, hl, hs⟩ := h
  rw [← (hl.map f).sum_nat]
  exact (hs.map f).sum_le_sum fun _ _ => Nat.zero_le _

theorem Spells.fits {p : Pattern} {u : List Char} {is : List Item} (h : Spells p u is) :
    p.Fits u.length := by
  induction h with
  | literal => simp [Pattern.Fits, Pattern.minLength, Pattern.maxLength]
  | wildcard => simp [Pattern.Fits, Pattern.minLength, Pattern.maxLength]
  | skip => simp [Pattern.Fits, Pattern.minLength]
  | optional _ ih => exact ⟨Nat.zero_le _, ih.2⟩
  | sequence parts _ hc _ ih =>
    rw [Pattern.Fits, Pattern.minLength_group _ (.inl rfl), Pattern.maxLength_group _ (by decide), ← hc]
    exact sum_bounds_of_fits ih
  | allOf parts _ hc _ ih =>
    rw [Pattern.Fits, Pattern.minLength_group _ (.inr rfl), Pattern.maxLength_group _ (by decide),
      ← (hc.map Pattern.minLength).sum_nat, ← (hc.map Pattern.maxLength).sum_nat]
    exact sum_bounds_of_fits ih
  | anySubset parts hc _ _ ih =>
    rw [Pattern.Fits, Pattern.minLength, Pattern.maxLength_group _ (by decide)]
    exact ⟨Nat.zero_le _, (sum_bounds_of_fits ih).2.trans (sum_map_le_of_subperm _ hc)⟩
  | oneOf hp _ ih =>
    rw [Pattern.Fits, Pattern.minLength_oneOf, Pattern.maxLength_oneOf]
    exact ⟨(min?_getD_le_of_mem (mem_map_of_mem hp)).trans ih.1,
      ih.2.trans (le_max?_getD_of_mem (mem_map_of_mem hp))⟩

theorem Pattern.exists_spells_of_mem_matcher {p : Pattern} {v : Letters} {m : Match}
    (h : m ∈ (p.matcher v).toList) : ∃ u, v.toList = u ++ m.rest.toList ∧ Spells p u m.items := by
  have ht : m.take ∈ p.takes v.toList := by
    rw [← map_take_matcher]
    exact mem_map_of_mem h
  exact (exact p _ _).1 ht

theorem Pattern.spells_of_mem_spellings {p : Pattern} {v : Letters} {m : Match}
    (h : m ∈ (p.spellings v).toList) : Spells p v.toList m.items := by
  rw [spellings, Enumeration.toList_filter, mem_filter] at h
  obtain ⟨u, hu, hs⟩ := exists_spells_of_mem_matcher h.1
  have hr : m.rest.toList = [] := (Match.isComplete_iff m).1 h.2
  rw [hr, append_nil] at hu
  exact hu ▸ hs

theorem Pattern.spellings_eq_nil {p : Pattern} {v : Letters} (h : ¬ p.Fits v.length) :
    (p.spellings v).toList = [] := by
  rw [eq_nil_iff_forall_not_mem]
  intro m hm
  have hf := (spells_of_mem_spellings hm).fits
  rw [Letters.length_toList] at hf
  exact h hf

end Initialism
