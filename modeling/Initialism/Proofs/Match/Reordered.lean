import Mathlib.Data.List.Perm.Basic
import Initialism.Proofs.Match.Congruence

/-! The order of children in a group that has none. Where children of such groups change places,
anywhere in a pattern, the same matches are found, each as often as before: only their order
changes. -/
namespace Initialism
open List

theorem flatMap_withOthers_perm {α : Type u} {β : Type v} {l k : List α} (h : l ~ k)
    {f : α → List α → List β} (hf : ∀ a x y, x ~ y → x.length + 1 = l.length → f a x ~ f a y) :
    ((withOthers l).flatMap fun s => f s.1 s.2) ~ (withOthers k).flatMap fun s => f s.1 s.2 := by
  induction h generalizing f with
  | nil => exact .refl _
  | @cons a l k h ih =>
    -- The element in front is one of the others for all that follow it.
    have hi := ih fun b x y hxy hx => hf b (a :: x) (a :: y) (hxy.cons a) (congrArg (· + 1) hx)
    rw [withOthers, withOthers, flatMap_cons, flatMap_cons, flatMap_map, flatMap_map]
    exact (hf a l k h rfl).append hi
  | swap a b l =>
    have hl : ((withOthers l).flatMap fun s => f s.1 (b :: a :: s.2)) ~
        (withOthers l).flatMap fun s => f s.1 (a :: b :: s.2) := by
      refine .flatMap_left _ fun s hs => hf s.1 _ _ (.swap a b s.2) ?_
      exact congrArg (· + 2) (length_of_mem_withOthers hs)
    simp only [withOthers, map_cons, map_map, flatMap_cons, flatMap_map, Function.comp_def]
    calc
      f b (a :: l) ++ (f a (b :: l) ++ (withOthers l).flatMap fun s => f s.1 (b :: a :: s.2))
          ~ f a (b :: l) ++ (f b (a :: l) ++ (withOthers l).flatMap fun s => f s.1 (b :: a :: s.2)) :=
            perm_append_comm_assoc ..
      _ ~ f a (b :: l) ++ (f b (a :: l) ++ (withOthers l).flatMap fun s => f s.1 (a :: b :: s.2)) :=
            (hl.append_left _).append_left _
  | trans h _ ih ih' =>
    exact (ih hf).trans (ih' fun a x y hxy hx => hf a x y hxy (hx.trans h.length_eq.symm))

namespace Taker

def Permutes (t u : Taker) : Prop := ∀ w, t w ~ u w

theorem Permutes.refl (t : Taker) : t.Permutes t := fun _ => .refl _

theorem Permutes.trans {s t u : Taker} (h : s.Permutes t) (h' : t.Permutes u) : s.Permutes u :=
  fun w => (h w).trans (h' w)

theorem congruence_permutes : Congruence Permutes where
  none := .refl _
  skip := .refl _
  append hs ht := fun w => (hs w).append (ht w)
  nonempty ht := fun w => (ht w).filter _
  followed hs ht := by
    intro w
    exact ((hs w).flatMap_right _).trans (.flatMap_left _ fun h _ => (ht h.rest).map _)

variable {ts us : List Taker}

theorem permutes_allOf (h : ts ~ us) : (allOf ts).Permutes (allOf us) := by
  induction hn : ts.length using Nat.strongRecOn generalizing ts us with
  | ind n ih =>
    by_cases hl : 1 < ts.length
    · intro w
      rw [allOf_eq hl, allOf_eq (h.length_eq ▸ hl)]
      refine flatMap_withOthers_perm h (f := fun t ts => t.followed (allOf ts) w) ?_
      intro t xs ys hxy hx
      exact congruence_permutes.followed (.refl t) (ih xs.length (by omega) hxy rfl) w
    · match ts, hl with
      | [], _ => exact nil_perm.1 h ▸ .refl _
      | [t], _ => exact singleton_perm.1 h ▸ .refl _
      | _ :: _ :: _, hl => simp at hl

theorem permutes_anySubset (h : ts ~ us) : (anySubset ts).Permutes (anySubset us) := by
  induction hn : ts.length using Nat.strongRecOn generalizing ts us with
  | ind n ih =>
    intro w
    rw [anySubset_eq, anySubset_eq]
    refine .cons _ (flatMap_withOthers_perm h
      (f := fun t ts => t.nonempty.followed (anySubset ts) w) ?_)
    intro t xs ys hxy hx
    exact congruence_permutes.followed (.refl t.nonempty) (ih xs.length (by omega) hxy rfl) w

theorem permutes_group {g : Group} (hg : g ≠ .sequence) (h : ts ~ us) :
    (group g ts).Permutes (group g us) := by
  cases g with
  | sequence => exact absurd rfl hg
  | allOf => exact permutes_allOf h
  | anySubset => exact permutes_anySubset h
  | oneOf => exact fun w => h.flatMap_right _

end Taker

namespace Pattern

/-- The second pattern is the first with the children of groups in another order, anywhere in it.
Sequences keep their order. -/
inductive Reordered : Pattern → Pattern → Prop where
  | literal (w : String) : Reordered (.literal w) (.literal w)
  | wildcard : Reordered .wildcard .wildcard
  | optional {p q : Pattern} (h : Reordered p q) : Reordered (.optional p) (.optional q)
  | sequence {ps qs : List Pattern} (h : Forall₂ Reordered ps qs) :
      Reordered (.group .sequence ps) (.group .sequence qs)
  | unordered {g : Group} {ps qs rs : List Pattern} (hg : g ≠ .sequence)
      (h : Forall₂ Reordered ps qs) (hp : qs ~ rs) : Reordered (.group g ps) (.group g rs)

variable {p q : Pattern}

theorem Reordered.induction {P : Pattern → Pattern → Prop} (h : p.Reordered q)
    (literal : ∀ w, P (.literal w) (.literal w)) (wildcard : P .wildcard .wildcard)
    (optional : ∀ p q, P p q → P (.optional p) (.optional q))
    (sequence : ∀ ps qs, Forall₂ P ps qs → P (.group .sequence ps) (.group .sequence qs))
    (unordered : ∀ g ps qs rs, g ≠ .sequence → Forall₂ P ps qs → qs ~ rs →
      P (.group g ps) (.group g rs)) : P p q :=
  @Reordered.rec (fun p q _ => P p q) (fun ps qs _ => Forall₂ P ps qs) literal wildcard
    (fun _ hp => optional _ _ hp) (fun _ hps => sequence _ _ hps)
    (fun hg _ hp hps => unordered _ _ _ _ hg hps hp) .nil (fun _ _ hp hps => .cons hp hps) p q h

theorem Reordered.takes_permutes (h : p.Reordered q) : p.takes.Permutes q.takes := by
  refine h.induction (P := fun p q => p.takes.Permutes q.takes) (fun _ => .refl _) (.refl _) ?_ ?_ ?_
  · intro p q ih
    exact Taker.congruence_permutes.optional ih
  · intro ps qs ih
    exact Taker.congruence_permutes.takes_group .sequence ih
  · intro g ps qs rs hg ih hp
    apply (Taker.congruence_permutes.takes_group g ih).trans
    rw [takes, takes, takers_eq, takers_eq]
    exact Taker.permutes_group hg (hp.map takes)

/-- The order of children in unordered groups does not matter: with any other order of them,
anywhere in the pattern, the same matches are found, each equally often. -/
theorem matcher_perm_of_reordered (h : p.Reordered q) (v : Letters) :
    (p.matcher v).toList.map Match.take ~ (q.matcher v).toList.map Match.take := by
  rw [map_take_matcher, map_take_matcher]
  exact h.takes_permutes v.toList

theorem matcher_perm_of_reordered_ab :
    let p := group .anySubset [literal "an", group .oneOf [wildcard, literal "as"]]
    let q := group .anySubset [group .oneOf [literal "as", wildcard], literal "an"]
    let v := Letters.ofString "ab"
    let ps := (p.matcher v).toList.map Match.take
    let qs := (q.matcher v).toList.map Match.take
    p.Reordered q ∧ ps ~ qs ∧
      ps = [⟨[], ['a', 'b']⟩, ⟨[.word "an"], ['b']⟩, ⟨[.word "an", .letter 'b'], []⟩,
        ⟨[.letter 'a'], ['b']⟩, ⟨[.word "as"], ['b']⟩] ∧
      qs = [⟨[], ['a', 'b']⟩, ⟨[.word "as"], ['b']⟩, ⟨[.letter 'a'], ['b']⟩,
        ⟨[.word "an"], ['b']⟩, ⟨[.word "an", .letter 'b'], []⟩] := by
  intro p q v ps qs
  have hi : (group .oneOf [wildcard, literal "as"]).Reordered
      (group .oneOf [literal "as", wildcard]) :=
    .unordered (by decide) (.cons .wildcard (.cons (.literal "as") .nil)) (.swap ..)
  have h : p.Reordered q :=
    .unordered (by decide) (.cons (.literal "an") (.cons hi .nil)) (.swap ..)
  exact ⟨h, matcher_perm_of_reordered h v, by decide, by decide⟩

end Pattern
end Initialism
