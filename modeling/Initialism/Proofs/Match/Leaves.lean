import Mathlib.Data.List.Flatten
import Mathlib.Data.List.Perm.Basic
import Initialism.Proofs.Match.Consumed

/-! Which leaves a match uses. Each of its items stands for a leaf of the pattern, and no leaf stands
behind two of them; so no word is used more often than it occurs, and no more letters are taken
freely than there are wildcards. Where nothing may be left out, each leaf is used. -/
namespace Initialism
open List

section Subperm
variable {α : Type u} {β : Type v} {l k : List α}

theorem flatMap_subperm_flatMap {f g : α → List β} (h : ∀ a ∈ l, f a <+~ g a) :
    l.flatMap f <+~ l.flatMap g := by
  induction l with
  | nil => exact .refl _
  | cons a l ih =>
    obtain ⟨ha, hl⟩ := forall_mem_cons.1 h
    exact ha.append (ih hl)

theorem subperm_flatMap (h : l <+~ k) (f : α → List β) : l.flatMap f <+~ k.flatMap f := by
  obtain ⟨m, hp, hs⟩ := h
  exact ⟨m.flatMap f, hp.flatMap_right f, hs.flatMap f⟩

theorem subperm_filterMap (h : l <+~ k) (f : α → Option β) : l.filterMap f <+~ k.filterMap f := by
  obtain ⟨m, hp, hs⟩ := h
  exact ⟨m.filterMap f, hp.filterMap f, hs.filterMap f⟩

end Subperm

namespace Pattern

def leaves (p : Pattern) : List Pattern := p.nodes.filter isLeaf

def word? : Pattern → Option String
  | literal w => some w
  | _ => none

def words (p : Pattern) : List String := p.leaves.filterMap word?

def wildcardCount (p : Pattern) : Nat := p.leaves.count wildcard

/-- A part of the pattern that need not use all of its own parts. -/
def mayLeaveOut : Pattern → Bool
  | optional _ | group .anySubset _ | group .oneOf _ => true
  | literal _ | wildcard | group .sequence _ | group .allOf _ => false

def NeedsAll (p : Pattern) : Prop := ∀ q ∈ p.nodes, q.mayLeaveOut = false

@[simp] theorem leaves_group (g : Group) (ps : List Pattern) :
    (group g ps).leaves = ps.flatMap leaves := by
  rw [leaves, nodes, nodesOf_eq, filter_cons_of_neg (by simp [isLeaf]), filter_flatMap]
  rfl

theorem NeedsAll.of_mem {g : Group} {p : Pattern} {ps : List Pattern} (h : (group g ps).NeedsAll)
    (hp : p ∈ ps) : p.NeedsAll := fun _ hq => h _ (mem_nodes_group hp hq)

theorem NeedsAll.length_leaves_group {g : Group} {ps : List Pattern} (h : (group g ps).NeedsAll)
    (hps : ∀ p ∈ ps, p.leaves.length = p.minLength) :
    (group g ps).leaves.length = (group g ps).minLength := by
  have hg := h _ mem_cons_self
  have hs : (ps.map fun p => p.leaves.length) = ps.map minLength := map_congr_left hps
  rw [leaves_group, length_flatMap, hs]
  cases g with
  | sequence => rw [minLength, minLengths_eq, total_eq_sum]
  | allOf => rw [minLength, minLengths_eq, total_eq_sum]
  | anySubset => cases hg
  | oneOf => cases hg

theorem NeedsAll.length_leaves {p : Pattern} (h : p.NeedsAll) : p.leaves.length = p.minLength := by
  induction p with
  | literal w => rfl
  | wildcard => rfl
  | optional p => exact absurd (h _ mem_cons_self) (by simp [mayLeaveOut])
  | group g ps ih => exact h.length_leaves_group fun p hp => ih p hp (h.of_mem hp)

end Pattern

theorem map_leaf_subperm {parts : List Part} {ps : List Pattern} (hc : parts.map Part.child <+~ ps)
    (h : ∀ q ∈ parts, q.items.map Item.leaf <+~ q.child.leaves) :
    (parts.flatMap Part.items).map Item.leaf <+~ ps.flatMap Pattern.leaves := by
  have hq : (parts.flatMap fun q => q.items.map Item.leaf) <+~
      parts.flatMap fun q => q.child.leaves := flatMap_subperm_flatMap h
  have hp := subperm_flatMap hc Pattern.leaves
  rw [flatMap_map] at hp
  rw [map_flatMap]
  exact hq.trans hp

namespace Spells
variable {p : Pattern} {u : List Char} {is : List Item}

theorem map_leaf_subperm_leaves (h : Spells p u is) : is.map Item.leaf <+~ p.leaves := by
  induction h with
  | literal => exact .refl _
  | wildcard => exact .refl _
  | skip => exact nil_subperm
  | optional _ ih => exact ih
  | sequence _ _ hc _ ih =>
    rw [Pattern.leaves_group]
    exact map_leaf_subperm (hc ▸ .refl _) ih
  | allOf _ _ hc _ ih =>
    rw [Pattern.leaves_group]
    exact map_leaf_subperm hc.subperm ih
  | anySubset _ hc _ _ ih =>
    rw [Pattern.leaves_group]
    exact map_leaf_subperm hc ih
  | oneOf hp _ ih =>
    have hs := subperm_flatMap (singleton_subperm_iff.2 hp) Pattern.leaves
    rw [flatMap_singleton] at hs
    rw [Pattern.leaves_group]
    exact ih.trans hs

/-- As many letters are taken as there are leaves, so no leaf is left over. -/
theorem map_leaf_perm_leaves (h : Spells p u is) (hp : p.NeedsAll) : is.map Item.leaf ~ p.leaves := by
  apply h.map_leaf_subperm_leaves.perm_of_length_le
  rw [hp.length_leaves, length_map, h.forall₂_contributes.length_eq]
  exact h.fits.1

end Spells

def Item.word? : Item → Option String
  | word w => some w
  | letter _ => none

def Item.isLetter : Item → Bool
  | word _ => false
  | letter _ => true

namespace Match

def words (m : Match) : List String := m.items.filterMap Item.word?

def letterCount (m : Match) : Nat := m.items.countP Item.isLetter

theorem filterMap_word?_leaves (m : Match) :
    (m.items.map Item.leaf).filterMap Pattern.word? = m.words := by
  have hw : Pattern.word? ∘ Item.leaf = Item.word? := by
    funext i
    cases i <;> rfl
  rw [filterMap_map, hw, words]

theorem count_wildcard_leaves (m : Match) :
    (m.items.map Item.leaf).count .wildcard = m.letterCount := by
  have hi : (· == Pattern.wildcard) ∘ Item.leaf = Item.isLetter := by
    funext i
    cases i <;> rfl
  rw [count, countP_map, hi, letterCount]

end Match

namespace Pattern

/-- No leaf is used twice: the words in a match are among the words of the pattern, each as often at
most as it occurs there, and there are no more single letters than wildcards. Where nothing may be
left out they are the same words, and as many letters as wildcards. -/
theorem matcher_uses_leaves_once (p : Pattern) (v : Letters) {m : Match}
    (h : m ∈ (p.matcher v).toList) :
    (m.words <+~ p.words ∧ m.letterCount ≤ p.wildcardCount) ∧
      (p.NeedsAll → m.words ~ p.words ∧ m.letterCount = p.wildcardCount) := by
  obtain ⟨u, -, hs⟩ := exists_spells_of_mem_matcher h
  rw [← m.filterMap_word?_leaves, ← m.count_wildcard_leaves]
  constructor
  · have hl := hs.map_leaf_subperm_leaves
    exact ⟨subperm_filterMap hl word?, hl.count_le wildcard⟩
  · intro hp
    have hl := hs.map_leaf_perm_leaves hp
    exact ⟨hl.filterMap word?, hl.count_eq wildcard⟩

theorem matcher_uses_leaves_once_aaab :
    let p := group .allOf [literal "an", group .sequence [wildcard, literal "an"]]
    p.NeedsAll ∧ ∃ m ∈ (p.matcher (.ofString "aaab")).toList,
      m.take = ⟨[.letter 'a', .word "an", .word "an"], ['b']⟩ ∧
        (m.words <+~ p.words ∧ m.letterCount ≤ p.wildcardCount) ∧
          m.words ~ p.words ∧ m.letterCount = p.wildcardCount := by
  intro p
  have hp : ∀ q ∈ p.nodes, q.mayLeaveOut = false := by decide
  have hm : (⟨[.letter 'a', .word "an", .word "an"], ['b']⟩ : Take) ∈
      (p.matcher (.ofString "aaab")).toList.map Match.take := by decide
  obtain ⟨m, hm, ht⟩ := mem_map.1 hm
  obtain ⟨ha, hb⟩ := p.matcher_uses_leaves_once _ hm
  exact ⟨hp, m, hm, ht, ha, hb hp⟩

end Pattern
end Initialism
