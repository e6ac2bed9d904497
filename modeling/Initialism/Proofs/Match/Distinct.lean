import Mathlib.Data.List.Lattice
import Mathlib.Data.List.Nodup
import Initialism.Proofs.Match.Leaves

/-! When no match comes twice. The items of a match of any children can be cut up again into what
each child gave, provided that no leaf stands in two of the children; so it comes twice only if a
child finds twice what takes a letter. What takes no letter may be found by a child as often as it
likes. -/
namespace Initialism
open List

def Match.Distinct (ms : List Match) : Prop := ms.Pairwise fun m n => (m == n) = false

theorem Match.distinct_iff (ms : List Match) : Distinct ms ↔ (ms.map Match.take).Nodup := by
  have he (m n : Match) : (m == n) = false ↔ m.take ≠ n.take := by
    rw [← Bool.not_eq_true, beq_iff, Match.take, Match.take, ne_eq, Take.mk.injEq]
  rw [Distinct, List.Nodup, pairwise_map]
  simp only [he]

/-- Two lists of one kind of elements are equal if they can be completed to one list by elements
that are not of this kind. -/
theorem eq_of_append_eq_append {α : Type u} {P : α → Prop} {k k' l l' : List α}
    (hk : ∀ a ∈ k, P a) (hk' : ∀ a ∈ k', P a) (hl : ∀ a ∈ l, ¬ P a) (hl' : ∀ a ∈ l', ¬ P a)
    (h : k ++ l = k' ++ l') : k = k' := by
  have hc {m : List α} (hm : ∀ a ∈ m, P a) (hm' : ∀ a ∈ m, ¬ P a) : m = [] :=
    eq_nil_iff_forall_not_mem.2 fun a ha => hm' a ha (hm a ha)
  rcases append_eq_append_iff.1 h with ⟨m, rfl, rfl⟩ | ⟨m, rfl, rfl⟩
  · have hm : m = [] := hc (fun a ha => hk' a (by simp [ha])) fun a ha => hl a (by simp [ha])
    simp [hm]
  · have hm : m = [] := hc (fun a ha => hk a (by simp [ha])) fun a ha => hl' a (by simp [ha])
    simp [hm]

structure Take.UsesOnly (ls : List Pattern) (w : List Char) (s : Take) : Prop where
  leaf : ∀ i ∈ s.items, i.leaf ∈ ls
  rest : s.rest = w.drop s.items.length

namespace Pattern

theorem usesOnly_of_mem_takes {p : Pattern} {w : List Char} {s : Take} (h : s ∈ p.takes w) :
    s.UsesOnly p.leaves w := by
  obtain ⟨u, hw, hs⟩ := (exact p w s).1 h
  constructor
  · intro i hi
    exact hs.map_leaf_subperm_leaves.subset (mem_map_of_mem hi)
  · rw [hw, hs.forall₂_contributes.length_eq, drop_left]

/-- No word stands in both patterns, and no wildcards in both. -/
def Apart (p q : Pattern) : Prop :=
  p.words.Disjoint q.words ∧ (p.wildcardCount = 0 ∨ q.wildcardCount = 0)

variable {p q : Pattern} {ps : List Pattern} {w : List Char} {s : Take}

theorem Apart.symm (h : p.Apart q) : q.Apart p := ⟨disjoint_comm.1 h.1, h.2.symm⟩

theorem Apart.leaf_notMem (h : p.Apart q) {i : Item} (hi : i.leaf ∈ p.leaves) : i.leaf ∉ q.leaves := by
  intro hj
  cases i with
  | word x => exact h.1 (mem_filterMap.2 ⟨_, hi, rfl⟩) (mem_filterMap.2 ⟨_, hj, rfl⟩)
  | letter c =>
    rcases h.2 with h | h
    · exact count_eq_zero.1 h hi
    · exact count_eq_zero.1 h hj

theorem exists_leaf_of_mem_followed {next : Taker} (h : s ∈ p.takes.nonempty.followed next w) :
    ∃ i is, s.items = i :: is ∧ i.leaf ∈ p.leaves := by
  obtain ⟨k, hk, hs⟩ := mem_flatMap.1 h
  obtain ⟨t, -, rfl⟩ := mem_map.1 hs
  obtain ⟨hk, hl⟩ := mem_filter.1 hk
  have hu := usesOnly_of_mem_takes hk
  cases hi : k.items with
  | nil => simp [hu.rest, hi] at hl
  | cons i is =>
    exact ⟨i, is ++ t.items, by rw [Take.items_andThen, hi, cons_append], hu.leaf i (by simp [hi])⟩

/-- A child's part ends where the first leaf comes that is not its own. So what follows it tells the
same parts apart as before. -/
theorem nodup_followed {next : Taker} (hp : (p.takes.nonempty w).Nodup) (hn : ∀ v, (next v).Nodup)
    (hl : ∀ v, ∀ t ∈ next v, ∀ i ∈ t.items, i.leaf ∉ p.leaves) :
    (p.takes.nonempty.followed next w).Nodup := by
  rw [Taker.followed, nodup_flatMap]
  constructor
  · intro h _
    apply (hn h.rest).map
    intro s t hst
    obtain ⟨hi, hr⟩ := Take.mk.inj hst
    exact congrArg₂ Take.mk (append_cancel_left hi) hr
  · apply hp.pairwise_of_forall_ne
    intro h hh k hk hne
    refine disjoint_left.2 fun s hs hs' => hne ?_
    obtain ⟨a, ha, rfl⟩ := mem_map.1 hs
    obtain ⟨b, hb, hs⟩ := mem_map.1 hs'
    have hu := usesOnly_of_mem_takes (mem_filter.1 hh).1
    have hv := usesOnly_of_mem_takes (mem_filter.1 hk).1
    have hi : h.items = k.items := eq_of_append_eq_append (P := fun i => i.leaf ∈ p.leaves) hu.leaf
      hv.leaf (hl _ a ha) (hl _ b hb) (congrArg Take.items hs).symm
    have hr : h.rest = k.rest := by rw [hu.rest, hv.rest, hi]
    exact congrArg₂ Take.mk hi hr

theorem leaf_notMem_of_mem_anySubset (hp : ∀ q ∈ ps, p.Apart q)
    (h : s ∈ (group .anySubset ps).takes w) : ∀ i ∈ s.items, i.leaf ∉ p.leaves := by
  intro i hi hip
  have hl := (usesOnly_of_mem_takes h).leaf i hi
  rw [leaves_group] at hl
  obtain ⟨q, hq, hiq⟩ := mem_flatMap.1 hl
  exact (hp q hq).leaf_notMem hip hiq

theorem nodup_takes_anySubset (hps : ps.Pairwise Apart)
    (h : ∀ p ∈ ps, ∀ w, (p.takes.nonempty w).Nodup) (w : List Char) :
    ((group .anySubset ps).takes w).Nodup := by
  -- What is left to follow a child is its others, which are no tail of `ps` but one fewer.
  induction hn : ps.length using Nat.strongRecOn generalizing ps w with
  | ind n ih =>
    rw [takes_anySubset, nodup_cons, nodup_flatMap]
    refine ⟨?_, ?_, ?_⟩
    · intro hs
      obtain ⟨s, -, hs⟩ := mem_flatMap.1 hs
      obtain ⟨i, is, hi, -⟩ := exists_leaf_of_mem_followed hs
      cases hi
    · intro s hs
      have hm := mem_of_mem_withOthers hs
      have hl := length_of_mem_withOthers hs
      have hsp : (s.1 :: s.2).Pairwise Apart := ((perm_of_mem_withOthers hs).pairwise_iff .symm).2 hps
      obtain ⟨ha, hr⟩ := pairwise_cons.1 hsp
      have ho (v : List Char) : ((group .anySubset s.2).takes v).Nodup :=
        ih s.2.length (by omega) hr (fun q hq => h q (hm.2 q hq)) v rfl
      exact nodup_followed (h s.1 hm.1 w) ho fun v t ht => leaf_notMem_of_mem_anySubset ha ht
    · -- What begins with different children begins with different leaves.
      have hw : (withOthers ps).Pairwise fun s t => s.1.Apart t.1 := by
        rwa [← pairwise_map (f := Prod.fst) (R := Apart), map_fst_withOthers]
      apply hw.imp
      intro s t hst
      refine disjoint_left.2 fun k hk hk' => ?_
      obtain ⟨i, is, hi, hs⟩ := exists_leaf_of_mem_followed hk
      obtain ⟨j, js, hj, ht⟩ := exists_leaf_of_mem_followed hk'
      obtain ⟨rfl, -⟩ := cons.inj (hi.symm.trans hj)
      exact hst.leaf_notMem hs ht

theorem distinct_filter_iff (p : Pattern) (v : Letters) :
    Match.Distinct ((p.matcher v).toList.filter fun m => m.rest.length < v.length) ↔
      (p.takes.nonempty v.toList).Nodup := by
  have hl := (lists_matcher p).nonempty v
  rw [Matcher.nonempty, Enumeration.toList_filter] at hl
  rw [Match.distinct_iff, hl]

/-- The matches of any children are distinct if the children can be told apart and if, on every
word, the matches of each child that take a letter are distinct. -/
theorem distinct_anySubset (hps : ps.Pairwise Apart) (h : ∀ p ∈ ps, ∀ v : Letters,
    Match.Distinct ((p.matcher v).toList.filter fun m => m.rest.length < v.length)) (v : Letters) :
    Match.Distinct ((group .anySubset ps).matcher v).toList := by
  rw [Match.distinct_iff, map_take_matcher]
  refine nodup_takes_anySubset hps ?_ v.toList
  intro p hp w
  have hw := (p.distinct_filter_iff (.ofList w)).1 (h p hp (.ofList w))
  rwa [Letters.toList_ofList] at hw

/-- The first child finds twice that it may take nothing. Among any children this comes once. -/
theorem distinct_anySubset_ab :
    let p := optional (optional (literal "an"))
    let q := group .oneOf [literal "bee", wildcard]
    let v := Letters.ofString "ab"
    [p, q].Pairwise Apart ∧ (∀ r ∈ [p, q], ∀ v : Letters,
        Match.Distinct ((r.matcher v).toList.filter fun m => m.rest.length < v.length)) ∧
      ¬ Match.Distinct (p.matcher v).toList ∧
      Match.Distinct ((group .anySubset [p, q]).matcher v).toList ∧
      ((group .anySubset [p, q]).matcher v).toList.map Match.take = [⟨[], ['a', 'b']⟩,
        ⟨[.word "an"], ['b']⟩, ⟨[.word "an", .word "bee"], []⟩, ⟨[.word "an", .letter 'b'], []⟩,
        ⟨[.letter 'a'], ['b']⟩] := by
  intro p q v
  have ha : p.Apart q := ⟨disjoint_iff_ne.2 (by decide), .inl (by decide)⟩
  have hps : [p, q].Pairwise Apart := pairwise_pair.2 ha
  have hp (w : List Char) : (p.takes.nonempty w).Nodup := by
    cases w with
    | nil => exact nodup_nil
    | cons c w =>
      by_cases hc : Text.sameLetter c 'a' <;>
        simp [p, takes, Taker.optional, Taker.literal, Taker.nonempty, Take.skip, hc]
  have hq (w : List Char) : (q.takes.nonempty w).Nodup := by
    cases w with
    | nil => exact nodup_nil
    | cons c w =>
      by_cases hc : Text.sameLetter c 'b' <;>
        simp [q, takes, Taker.group, Taker.oneOf, Taker.literal, Taker.wildcard, Taker.nonempty, hc]
  have h : ∀ r ∈ [p, q], ∀ v : Letters,
      Match.Distinct ((r.matcher v).toList.filter fun m => m.rest.length < v.length) := by
    intro r hr v
    rw [distinct_filter_iff]
    rcases mem_pair.1 hr with rfl | rfl
    · exact hp v.toList
    · exact hq v.toList
  have hd : ¬ Match.Distinct (p.matcher v).toList := by
    rw [Match.distinct_iff]
    decide
  exact ⟨hps, h, hd, distinct_anySubset hps h v, by decide⟩

end Pattern
end Initialism
