import Initialism.Proofs.Match.Take

/-! What groups are made of. All four kinds put their children together in the same few ways: to find
nothing, to take nothing, to go on with other choices, to leave out what takes no letter, and to let
one child follow another. So a relation that is kept by these holds between groups whose children
are related, and between whole patterns of one shape. -/
namespace Initialism
open List

/-- A relation that is kept by all that groups are made of. -/
structure Taker.Congruence (R : Taker → Taker → Prop) : Prop where
  none : R (fun _ => []) (fun _ => [])
  skip : R (fun w => [.skip w]) (fun w => [.skip w])
  append {s s' t t' : Taker} (hs : R s s') (ht : R t t') :
    R (fun w => s w ++ t w) (fun w => s' w ++ t' w)
  nonempty {t t' : Taker} (ht : R t t') : R t.nonempty t'.nonempty
  followed {s s' t t' : Taker} (hs : R s s') (ht : R t t') : R (s.followed t) (s'.followed t')

namespace Taker.Congruence
variable {R : Taker → Taker → Prop} (hR : Congruence R) {ι : Type u} {f g : ι → Taker} {l : List ι}
include hR

theorem optional {t t' : Taker} (ht : R t t') : R t.optional t'.optional := hR.append hR.skip ht

theorem flatMap (h : ∀ a ∈ l, R (f a) (g a)) :
    R (fun w => l.flatMap fun a => f a w) (fun w => l.flatMap fun a => g a w) := by
  induction l with
  | nil => exact hR.none
  | cons a l ih =>
    obtain ⟨ha, hl⟩ := forall_mem_cons.1 h
    simpa only [flatMap_cons] using hR.append ha (ih hl)

theorem sequence_map (h : ∀ a ∈ l, R (f a) (g a)) :
    R (sequence (l.map f)) (sequence (l.map g)) := by
  induction l with
  | nil => exact hR.none
  | cons a l ih =>
    obtain ⟨ha, hl⟩ := forall_mem_cons.1 h
    cases l with
    | nil => exact ha
    | cons b l => exact hR.followed ha (ih hl)

theorem flatMap_withOthers (F : Taker → List Taker → Taker)
    (h : ∀ s ∈ withOthers l, R (F (f s.1) (s.2.map f)) (F (g s.1) (s.2.map g))) :
    R (fun w => (withOthers (l.map f)).flatMap fun s => F s.1 s.2 w)
      (fun w => (withOthers (l.map g)).flatMap fun s => F s.1 s.2 w) := by
  simpa only [withOthers_map, flatMap_map] using hR.flatMap h

theorem allOf_map (h : ∀ a ∈ l, R (f a) (g a)) : R (allOf (l.map f)) (allOf (l.map g)) := by
  induction hn : l.length using Nat.strongRecOn generalizing l with
  | ind n ih =>
    by_cases hl : 1 < l.length
    · have hs (s : ι × List ι) (hs : s ∈ withOthers l) :
          R ((f s.1).followed (allOf (s.2.map f))) ((g s.1).followed (allOf (s.2.map g))) := by
        have hm := mem_of_mem_withOthers hs
        have hls := length_of_mem_withOthers hs
        exact hR.followed (h s.1 hm.1) (ih s.2.length (by omega) (fun c hc => h c (hm.2 c hc)) rfl)
      have hf : 1 < (l.map f).length := length_map f ▸ hl
      have hg : 1 < (l.map g).length := length_map g ▸ hl
      rw [funext (allOf_eq hf), funext (allOf_eq hg)]
      exact hR.flatMap_withOthers (fun t ts => t.followed (allOf ts)) hs
    · match l, hl with
      | [], _ => exact hR.none
      | [a], _ => exact h a mem_cons_self
      | _ :: _ :: _, hl => simp at hl

theorem anySubset_map (h : ∀ a ∈ l, R (f a) (g a)) :
    R (anySubset (l.map f)) (anySubset (l.map g)) := by
  induction hn : l.length using Nat.strongRecOn generalizing l with
  | ind n ih =>
    have hs (s : ι × List ι) (hs : s ∈ withOthers l) :
        R ((f s.1).nonempty.followed (anySubset (s.2.map f)))
          ((g s.1).nonempty.followed (anySubset (s.2.map g))) := by
      have hm := mem_of_mem_withOthers hs
      have hls := length_of_mem_withOthers hs
      exact hR.followed (hR.nonempty (h s.1 hm.1))
        (ih s.2.length (by omega) (fun c hc => h c (hm.2 c hc)) rfl)
    rw [funext (anySubset_eq _), funext (anySubset_eq _)]
    exact hR.optional (hR.flatMap_withOthers (fun t ts => t.nonempty.followed (anySubset ts)) hs)

theorem group_map (k : Group) (h : ∀ a ∈ l, R (f a) (g a)) :
    R (Taker.group k (l.map f)) (Taker.group k (l.map g)) := by
  cases k with
  | sequence => exact hR.sequence_map h
  | allOf => exact hR.allOf_map h
  | anySubset => exact hR.anySubset_map h
  | oneOf =>
    have he (e : ι → Taker) : Taker.group .oneOf (l.map e) = fun w => l.flatMap fun a => e a w := by
      funext w
      exact flatMap_map ..
    rw [he, he]
    exact hR.flatMap h

theorem group (k : Group) {ts us : List Taker} (h : Forall₂ R ts us) :
    R (Taker.group k ts) (Taker.group k us) := by
  obtain ⟨hl, hz⟩ := forall₂_iff_zip.1 h
  have hg : R (Taker.group k ((ts.zip us).map Prod.fst)) (Taker.group k ((ts.zip us).map Prod.snd)) :=
    hR.group_map k fun a ha => hz ha
  rwa [map_fst_zip (Nat.le_of_eq hl), map_snd_zip (Nat.le_of_eq hl.symm)] at hg

theorem takes_group (k : Group) {ps qs : List Pattern}
    (h : Forall₂ (fun p q => R p.takes q.takes) ps qs) :
    R (Pattern.group k ps).takes (Pattern.group k qs).takes := by
  rw [Pattern.takes, Pattern.takes, Pattern.takers_eq, Pattern.takers_eq]
  exact hR.group k (forall₂_map_left_iff.2 (forall₂_map_right_iff.2 h))

end Taker.Congruence

namespace Pattern

/-- The patterns have the same shape, and the words at the same place in them are related by `S`. -/
inductive Parallel (S : String → String → Prop) : Pattern → Pattern → Prop where
  | literal {v w : String} (h : S v w) : Parallel S (.literal v) (.literal w)
  | wildcard : Parallel S .wildcard .wildcard
  | optional {p q : Pattern} (h : Parallel S p q) : Parallel S (.optional p) (.optional q)
  | group (g : Group) {ps qs : List Pattern} (h : Forall₂ (Parallel S) ps qs) :
      Parallel S (.group g ps) (.group g qs)

section
variable {S T : String → String → Prop} {R : Taker → Taker → Prop} {p q : Pattern}

theorem Parallel.induction {P : Pattern → Pattern → Prop} (h : p.Parallel S q)
    (literal : ∀ v w, S v w → P (.literal v) (.literal w)) (wildcard : P .wildcard .wildcard)
    (optional : ∀ p q, P p q → P (.optional p) (.optional q))
    (group : ∀ g ps qs, Forall₂ P ps qs → P (.group g ps) (.group g qs)) : P p q :=
  @Parallel.rec S (fun p q _ => P p q) (fun ps qs _ => Forall₂ P ps qs) (literal _ _) wildcard
    (fun _ hp => optional _ _ hp) (fun g _ _ _ hps => group g _ _ hps) .nil
    (fun _ _ hp hps => .cons hp hps) p q h

theorem Parallel.imp (h : p.Parallel S q) (hST : ∀ x y, S x y → T x y) : p.Parallel T q := by
  refine h.induction (P := Parallel T) ?_ .wildcard ?_ ?_
  · intro v w h
    exact .literal (hST v w h)
  · intro p q h
    exact .optional h
  · intro g ps qs h
    exact .group g h

theorem parallel_self (hS : ∀ w, S w w) (p : Pattern) : p.Parallel S p := by
  induction p with
  | literal w => exact .literal (hS w)
  | wildcard => exact .wildcard
  | optional p ih => exact .optional ih
  | group g ps ih => exact .group g (forall₂_same.2 ih)

theorem Parallel.takes (h : p.Parallel S q) (hR : Taker.Congruence R)
    (hl : ∀ v w, S v w → R (.literal v) (.literal w)) (hw : R .wildcard .wildcard) :
    R p.takes q.takes := by
  refine h.induction (P := fun p q => R p.takes q.takes) hl hw ?_ ?_
  · intro p q ih
    exact hR.optional ih
  · intro g ps qs ih
    exact hR.takes_group g ih

theorem takes_self (hR : Taker.Congruence R) (hl : ∀ w, R (.literal w) (.literal w))
    (hw : R .wildcard .wildcard) (p : Pattern) : R p.takes p.takes := by
  have hp : p.Parallel Eq p := parallel_self (fun _ => rfl) p
  refine hp.takes hR ?_ hw
  intro v w h
  exact h ▸ hl v

end
end Pattern
end Initialism
