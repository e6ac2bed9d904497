import Initialism.Proofs.Match.Reordered

/-! Groups within groups. A sequence as a child of a sequence can be dissolved: its own children may
stand in its place. A choice as a child of a sequence, or of children in any order, can be made first:
the group has the matches that it has with one child of the choice after the other, each equally
often. -/
namespace Initialism
open List

theorem Take.andThen_assoc (r s t : Take) : (r.andThen s).andThen t = r.andThen (s.andThen t) :=
  congrArg (Take.mk · t.rest) (append_assoc r.items s.items t.items)

theorem flatMap_flatMap_perm {α : Type u} {β : Type v} {γ : Type w} (l : List α) (k : List β)
    (f : α → β → List γ) :
    (l.flatMap fun a => k.flatMap fun b => f a b) ~ k.flatMap fun b => l.flatMap fun a => f a b := by
  induction l with
  | nil => simp
  | cons a l ih =>
    simp only [flatMap_cons]
    exact (ih.append_left _).trans (flatMap_append_perm k (f a) _)

namespace Taker
variable {s t u : Taker} {ts us : List Taker}

theorem followed_assoc (s t u : Taker) : (s.followed t).followed u = s.followed (t.followed u) := by
  funext w
  simp only [followed, flatMap_assoc, flatMap_map, map_flatMap, map_map]
  refine flatMap_congr fun h _ => flatMap_congr fun k _ => ?_
  exact map_congr_left fun m _ => h.andThen_assoc k m

theorem sequence_cons (t : Taker) (hts : ts ≠ []) : sequence (t :: ts) = t.followed (sequence ts) := by
  cases ts with
  | nil => exact absurd rfl hts
  | cons u us => rfl

theorem sequence_append (hts : ts ≠ []) (hus : us ≠ []) :
    sequence (ts ++ us) = (sequence ts).followed (sequence us) := by
  induction ts with
  | nil => exact absurd rfl hts
  | cons t ts ih =>
    rw [cons_append, sequence_cons t (append_ne_nil_of_right_ne_nil ts hus)]
    by_cases hn : ts = []
    · subst hn
      rfl
    · rw [ih hn, sequence_cons t hn, followed_assoc]

theorem sequence_dissolved (xs zs : List Taker) {ys : List Taker} (hys : ys ≠ []) :
    sequence (xs ++ sequence ys :: zs) = sequence (xs ++ (ys ++ zs)) := by
  induction xs with
  | nil =>
    by_cases hz : zs = []
    · subst hz
      rw [append_nil]
      rfl
    · rw [nil_append, nil_append, sequence_cons _ hz, sequence_append hys hz]
  | cons x xs ih =>
    have hy : ys ++ zs ≠ [] := append_ne_nil_of_left_ne_nil hys zs
    rw [cons_append, cons_append, sequence_cons x (by simp), ih,
      sequence_cons x (append_ne_nil_of_right_ne_nil xs hy)]

/-- With a choice put in, `F` takes what it takes with each of the chosen, each equally often. -/
def Distributes (F : Taker → Taker) : Prop :=
  ∀ (ts : List Taker) (w : List Char), F (oneOf ts) w ~ ts.flatMap fun t => F t w

variable {F G : Taker → Taker}

theorem distributes_id : Distributes fun t => t := fun _ _ => .refl _

theorem distributes_followed (u : Taker) : Distributes fun t => t.followed u := by
  intro ts w
  have he : (oneOf ts).followed u w = ts.flatMap fun t => t.followed u w := flatMap_assoc
  exact .of_eq he

theorem Distributes.follows (h : Distributes F) (s : Taker) : Distributes fun t => s.followed (F t) := by
  intro ts w
  calc
    s.followed (F (oneOf ts)) w
        ~ s.followed (fun r => ts.flatMap fun t => F t r) w :=
          congruence_permutes.followed (.refl s) (h ts) w
    _ = (s w).flatMap fun k => ts.flatMap fun t => (F t k.rest).map k.andThen := by
          simp only [followed, map_flatMap]
    _ ~ ts.flatMap fun t => s.followed (F t) w := flatMap_flatMap_perm ..

theorem Distributes.append (hF : Distributes F) (hG : Distributes G) :
    Distributes fun t w => F t w ++ G t w := by
  intro ts w
  exact ((hF ts w).append (hG ts w)).trans (flatMap_append_perm ts _ _)

theorem Distributes.flatMap {ι : Type*} {l : List ι} {H : ι → Taker → Taker}
    (h : ∀ a ∈ l, Distributes (H a)) : Distributes fun t w => l.flatMap fun a => H a t w := by
  intro ts w
  exact (Perm.flatMap_left l fun a ha => h a ha ts w).trans (flatMap_flatMap_perm ..)

theorem Distributes.congr (hG : Distributes G) (h : ∀ t, (F t).Permutes (G t)) : Distributes F := by
  intro ts w
  exact ((h (oneOf ts) w).trans (hG ts w)).trans (.flatMap_left ts fun t _ => (h t w).symm)

theorem distributes_sequence (xs zs : List Taker) : Distributes fun t => sequence (xs ++ t :: zs) := by
  induction xs with
  | nil =>
    cases zs with
    | nil => exact distributes_id
    | cons z zs => exact distributes_followed (sequence (z :: zs))
  | cons x xs ih =>
    have hx (t : Taker) : sequence (x :: xs ++ t :: zs) = x.followed (sequence (xs ++ t :: zs)) :=
      sequence_cons x (by simp)
    simp only [hx]
    exact ih.follows x

theorem distributes_allOf_cons (ts : List Taker) : Distributes fun t => allOf (t :: ts) := by
  induction hn : ts.length using Nat.strongRecOn generalizing ts with
  | ind n ih =>
    by_cases hts : ts = []
    · subst hts
      exact distributes_id
    · have ha (t : Taker) : allOf (t :: ts) = fun w => t.followed (allOf ts) w ++
          (withOthers ts).flatMap fun s => s.1.followed (allOf (t :: s.2)) w := by
        funext w
        have hl := length_pos_iff.2 hts
        rw [allOf_eq (by rw [length_cons]; omega), withOthers, flatMap_cons, flatMap_map]
      have hs (s) (hs : s ∈ withOthers ts) :
          Distributes fun t => s.1.followed (allOf (t :: s.2)) := by
        have hl := length_of_mem_withOthers hs
        exact (ih s.2.length (by omega) s.2 rfl).follows s.1
      simp only [ha]
      exact (distributes_followed (allOf ts)).append (.flatMap hs)

theorem distributes_allOf (xs zs : List Taker) : Distributes fun t => allOf (xs ++ t :: zs) :=
  (distributes_allOf_cons (xs ++ zs)).congr fun _ => permutes_allOf perm_middle

end Taker

namespace Pattern

theorem takes_group_append (g : Group) (xs zs : List Pattern) (p : Pattern) :
    (group g (xs ++ p :: zs)).takes = Taker.group g (xs.map takes ++ p.takes :: zs.map takes) := by
  rw [takes, takers_eq, map_append, map_cons]

theorem takes_oneOf (ps : List Pattern) (w : List Char) :
    (group .oneOf ps).takes w = ps.flatMap fun p => p.takes w := by
  rw [takes, takers_eq, Taker.group, Taker.oneOf, flatMap_map]

theorem takes_group_oneOf {g : Group} {xs zs : List Pattern}
    (h : Taker.Distributes fun t => Taker.group g (xs.map takes ++ t :: zs.map takes))
    (ys : List Pattern) (w : List Char) :
    (group g (xs ++ group .oneOf ys :: zs)).takes w ~
      (group .oneOf (ys.map fun y => group g (xs ++ y :: zs))).takes w := by
  have ho : (group .oneOf ys).takes = Taker.oneOf (ys.map takes) := by
    rw [takes, takers_eq, Taker.group]
  rw [takes_group_append, ho, takes_oneOf, flatMap_map]
  simp only [takes_group_append]
  have hd := h (ys.map takes) w
  rwa [flatMap_map] at hd

/-- A sequence within a sequence can be dissolved: with its children in its place the same matches
are found in the same order. A choice within a sequence, or within children in any order, can be made
first: the same matches are found, each equally often. -/
theorem matcher_dissolved (xs ys zs : List Pattern) (v : Letters) :
    let found := fun p : Pattern => (p.matcher v).toList.map Match.take
    (ys ≠ [] → found (group .sequence (xs ++ group .sequence ys :: zs)) =
        found (group .sequence (xs ++ ys ++ zs))) ∧
      found (group .sequence (xs ++ group .oneOf ys :: zs)) ~
        found (group .oneOf (ys.map fun y => group .sequence (xs ++ y :: zs))) ∧
      found (group .allOf (xs ++ group .oneOf ys :: zs)) ~
        found (group .oneOf (ys.map fun y => group .allOf (xs ++ y :: zs))) := by
  intro found
  simp only [found, map_take_matcher]
  refine ⟨?_, ?_, ?_⟩
  · intro hys
    have hs : (group .sequence ys).takes = Taker.sequence (ys.map takes) := by
      rw [takes, takers_eq, Taker.group]
    have hd : Taker.sequence (xs.map takes ++ Taker.sequence (ys.map takes) :: zs.map takes) =
        Taker.sequence (xs.map takes ++ (ys.map takes ++ zs.map takes)) :=
      Taker.sequence_dissolved _ _ (by simpa using hys)
    rw [takes_group_append, hs, Taker.group, hd, takes, takers_eq, map_append, map_append, append_assoc,
      Taker.group]
  · exact takes_group_oneOf (g := .sequence) (Taker.distributes_sequence _ _) ys v.toList
  · exact takes_group_oneOf (g := .allOf) (Taker.distributes_allOf _ _) ys v.toList

/-- In the inner sequence the optional part is the last child, in the outer one it is not. The choice
is made between parts of different lengths, and made first it brings the matches in another order. -/
theorem matcher_dissolved_aab :
    let found := fun p : Pattern => (p.matcher (.ofString "aab")).toList.map Match.take
    let an := literal "an"
    let bee := literal "bee"
    let ys := [an, optional wildcard]
    ys ≠ [] ∧
      found (group .sequence ([an] ++ group .sequence ys :: [bee])) =
        found (group .sequence ([an] ++ ys ++ [bee])) ∧
      found (group .sequence ([an] ++ ys ++ [bee])) = [⟨[.word "an", .word "an", .word "bee"], []⟩] ∧
      found (group .allOf ([an] ++ group .oneOf ys :: [bee])) ~
        found (group .oneOf (ys.map fun y => group .allOf ([an] ++ y :: [bee]))) ∧
      found (group .allOf ([an] ++ group .oneOf ys :: [bee])) =
        [⟨[.word "an", .word "an", .word "bee"], []⟩, ⟨[.word "an", .letter 'a', .word "bee"], []⟩,
          ⟨[.word "an", .word "an", .word "bee"], []⟩, ⟨[.letter 'a', .word "an", .word "bee"], []⟩] ∧
      found (group .oneOf (ys.map fun y => group .allOf ([an] ++ y :: [bee]))) =
        [⟨[.word "an", .word "an", .word "bee"], []⟩, ⟨[.word "an", .word "an", .word "bee"], []⟩,
          ⟨[.word "an", .letter 'a', .word "bee"], []⟩, ⟨[.letter 'a', .word "an", .word "bee"], []⟩] := by
  intro found an bee ys
  have hys : ys ≠ [] := by decide
  obtain ⟨hs, -, ha⟩ := matcher_dissolved [an] ys [bee] (.ofString "aab")
  exact ⟨hys, hs hys, by decide, ha, by decide, by decide⟩

end Pattern
end Initialism
