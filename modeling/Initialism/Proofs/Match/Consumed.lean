import Initialism.Proofs.Match.Lengths

/-! What a match has taken, whether or not it leaves anything: one letter with each of its items,
from the front of the word on, and as many as the bounds of the pattern allow. -/
namespace Initialism
open List

def Item.Takes : Item → Char → Prop
  | .word w, c => ∃ i, w.toList.head? = some i ∧ Text.sameLetter c i = true
  | .letter d, c => d = c

namespace Pattern

theorem mem_nodes_group {g : Group} {p q : Pattern} {ps : List Pattern} (hp : p ∈ ps)
    (hq : q ∈ p.nodes) : q ∈ (group g ps).nodes := by
  rw [nodes, nodesOf_eq]
  exact mem_cons_of_mem _ (mem_flatMap.2 ⟨p, hp, hq⟩)

end Pattern

def Item.leaf : Item → Pattern
  | .word w => .literal w
  | .letter _ => .wildcard

def Pattern.Contributes (p : Pattern) (i : Item) (c : Char) : Prop := i.leaf ∈ p.nodes ∧ i.Takes c

theorem Pattern.forall₂_contributes_flatMap {g : Group} {ps : List Pattern} {parts : List Part}
    (hc : ∀ p ∈ parts.map Part.child, p ∈ ps)
    (h : ∀ q ∈ parts, Forall₂ q.child.Contributes q.items q.letters) :
    Forall₂ (group g ps).Contributes (parts.flatMap Part.items) (parts.flatMap Part.letters) := by
  refine forall₂_flatMap_same fun q hq => (h q hq).imp fun _ _ hi => hi.imp_left ?_
  exact mem_nodes_group (hc q.child (mem_map_of_mem hq))

theorem Spells.forall₂_contributes {p : Pattern} {u : List Char} {is : List Item} (h : Spells p u is) :
    Forall₂ p.Contributes is u := by
  induction h with
  | literal hi hc => exact .cons ⟨mem_singleton_self _, _, hi, hc⟩ .nil
  | wildcard c => exact .cons ⟨mem_singleton_self _, rfl⟩ .nil
  | skip => exact .nil
  | optional _ ih => exact ih.imp fun _ _ hi => hi.imp_left (mem_cons_of_mem _)
  | sequence _ _ hc _ ih =>
    exact Pattern.forall₂_contributes_flatMap (fun _ hq => hc ▸ hq) ih
  | allOf _ _ hc _ ih =>
    exact Pattern.forall₂_contributes_flatMap (fun _ => hc.mem_iff.1) ih
  | anySubset _ hc _ _ ih =>
    exact Pattern.forall₂_contributes_flatMap (fun _ hq => hc.subset hq) ih
  | oneOf hp _ ih => exact ih.imp fun _ _ hi => hi.imp_left (Pattern.mem_nodes_group hp)

/-- The match has taken letters from the front of `w`, one with each of its items, and a number
of them that fits the pattern. -/
structure Match.Consumes (m : Match) (p : Pattern) (w : List Char) : Prop where
  suffix : m.rest.toList <:+ w
  length : m.items.length + m.rest.length = w.length
  takes : Forall₂ Item.Takes m.items (w.take m.items.length)
  fits : p.Fits m.items.length

namespace Pattern
variable {p : Pattern} {v : Letters} {m : Match}

theorem consumes_of_mem_matcher (h : m ∈ (p.matcher v).toList) : m.Consumes p v.toList := by
  obtain ⟨u, hu, hs⟩ := exists_spells_of_mem_matcher h
  have hg := hs.forall₂_contributes
  have hl : m.items.length = u.length := hg.length_eq
  refine ⟨⟨u, hu.symm⟩, ?_, ?_, hl ▸ hs.fits⟩
  · rw [hu, length_append, Letters.length_toList, hl]
  · rw [hu, hl, take_left]
    exact hg.imp fun _ _ hi => hi.2

/-- Every match has taken what its items stand for, within the bounds of the pattern; so a word
that is too short or too long for the pattern has no match that leaves nothing. -/
theorem matcher_consumes (p : Pattern) (v : Letters) :
    (∀ m ∈ (p.matcher v).toList, m.Consumes p v.toList) ∧
      ((p.spellings v).toList ≠ [] → p.Fits v.length) :=
  ⟨fun _ => consumes_of_mem_matcher, fun h => of_not_not fun hf => h (spellings_eq_nil hf)⟩

theorem matcher_consumes_dape :
    let p := group .sequence [wildcard, optional (literal "is"), group .allOf
      [literal "Apple", wildcard]]
    (∃ m ∈ (p.matcher (.ofString "dape")).toList,
      m.take = ⟨[.letter 'd', .word "Apple", .letter 'p'], ['e']⟩ ∧
        m.Consumes p ['d', 'a', 'p', 'e']) ∧
    (p.spellings (.ofString "diap")).toList ≠ [] ∧ p.Fits 4 := by
  intro p
  have hm : (⟨[.letter 'd', .word "Apple", .letter 'p'], ['e']⟩ : Take) ∈
      (p.matcher (.ofString "dape")).toList.map Match.take := by decide
  obtain ⟨m, hm, ht⟩ := mem_map.1 hm
  have hs : (p.spellings (.ofString "diap")).toList ≠ [] := by
    rw [← length_pos_iff]
    decide
  exact ⟨⟨m, hm, ht, (matcher_consumes p _).1 m hm⟩, hs, (matcher_consumes p _).2 hs⟩

end Pattern
end Initialism
