import Initialism.Proofs.Match.Relaxed

/-! Choices among choices. Where each child of a choice has only matches that a choice of further
patterns has, the whole has only matches that one choice among all those patterns has. -/
namespace Initialism
open List

/-- Each part falls into parts again, of patterns that no other part takes from. -/
theorem Spells.exists_parts_flatMap {ι : Type*} {l : List ι} {f : ι → Pattern} {g : ι → List Pattern}
    (h : ∀ a ∈ l, ∀ u is, Spells (f a) u is → Spells (.group .anySubset (g a)) u is)
    {parts : List Part} (hc : parts.map Part.child <+~ l.map f)
    (hs : ∀ q ∈ parts, Spells q.child q.letters q.items) :
    ∃ qs : List Part, qs.map Part.child <+~ l.flatMap g ∧
      (∀ q ∈ qs, q.letters ≠ [] ∧ Spells q.child q.letters q.items) ∧
      qs.flatMap Part.letters = parts.flatMap Part.letters ∧
      qs.flatMap Part.items = parts.flatMap Part.items := by
  induction parts generalizing l with
  | nil => exact ⟨[], nil_subperm, by simp, rfl, rfl⟩
  | cons q parts ih =>
    obtain ⟨hq, hs⟩ := forall_mem_cons.1 hs
    rw [map_cons, cons_subperm_iff_withOthers, withOthers_map] at hc
    obtain ⟨s, hm, hqs, hc⟩ := hc
    obtain ⟨t, ht, rfl⟩ := mem_map.1 hm
    obtain ⟨ha, ho⟩ := mem_of_mem_withOthers ht
    obtain ⟨qs, hcs, hss, hl, hi⟩ := ih (fun a h' => h a (ho a h')) hc hs
    rw [hqs] at hq
    -- The part of `t.1` is a choice, whose own parts come first.
    have hg := h t.1 ha q.letters q.items hq
    generalize hu : q.letters = u at hg
    generalize hv : q.items = is at hg
    cases hg with
    | anySubset rs hcr hne hr =>
      refine ⟨rs ++ qs, ?_, forall_mem_append.2 ⟨fun r h => ⟨hne r h, hr r h⟩, hss⟩, ?_, ?_⟩
      · have hp : g t.1 ++ t.2.flatMap g ~ l.flatMap g := (perm_of_mem_withOthers ht).flatMap_right g
        rw [map_append]
        exact (hcr.append hcs).trans hp.subperm
      · rw [flatMap_append, flatMap_cons, hl, hu]
      · rw [flatMap_append, flatMap_cons, hi, hv]

namespace Pattern
variable {p q : Pattern} {ps : List Pattern}

theorem within_iff_spells : p.Within q ↔ ∀ u is, Spells p u is → Spells q u is := by
  refine ⟨fun h u is hu => ?_, within_of_spells⟩
  have hp : (⟨is, []⟩ : Take) ∈ p.takes u := (exact p u _).2 ⟨u, (append_nil u).symm, hu⟩
  obtain ⟨v, hv, hq⟩ := (exact q u _).1 (within_iff_takes.1 h u hp)
  rw [append_nil] at hv
  exact hv ▸ hq

theorem within_anySubset_of_mem (h : p ∈ ps) : p.Within (group .anySubset ps) := by
  have ho : p.Within (group .oneOf ps) := within_of_spells fun _ _ => .oneOf h
  exact fun v => Subset.trans (ho v) (oneOf_within_anySubset ps v)

theorem anySubset_within_flatMap {ι : Type*} {l : List ι} {f : ι → Pattern}
    {g : ι → List Pattern} (h : ∀ a ∈ l, (f a).Within (group .anySubset (g a))) :
    (group .anySubset (l.map f)).Within (group .anySubset (l.flatMap g)) := by
  apply within_of_spells
  intro u is hs
  cases hs with
  | anySubset parts hc _ hq =>
    obtain ⟨qs, hcq, hqs, hl, hi⟩ :=
      Spells.exists_parts_flatMap (fun a ha => within_iff_spells.1 (h a ha)) hc hq
    rw [← hl, ← hi]
    exact .anySubset qs hcq (fun q hq => (hqs q hq).1) fun q hq => (hqs q hq).2

end Pattern
end Initialism
