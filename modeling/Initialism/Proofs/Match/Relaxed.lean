import Mathlib.Data.Set.List
import Initialism.Proofs.Match.Congruence
import Initialism.Proofs.Match.Consumed

/-! Patterns that ask for less. A group in any order has all matches that it has in order, a group
with a choice has all that it has without, and an optional part all of its own. A choice of children
is the same as all of them in any order where each may be left out. Nothing is lost when a part
anywhere in a pattern is put in place of one that asks for more. -/
namespace Initialism
open List

def Part.optional (q : Part) : Part := ⟨.optional q.child, q.letters, q.items⟩

def Part.omitted (p : Pattern) : Part := ⟨.optional p, [], []⟩

namespace Spells
variable {p : Pattern} {ps : List Pattern} {u : List Char} {is : List Item} {parts : List Part}

theorem items_eq_nil (h : Spells p [] is) : is = [] := forall₂_nil_right_iff.1 h.forall₂_contributes

theorem of_optional (h : Spells (.optional p) u is) (hu : u ≠ []) : Spells p u is := by
  cases h with
  | skip => exact absurd rfl hu
  | optional h => exact h

theorem anySubset_of_parts (hc : parts.map Part.child <+~ ps)
    (h : ∀ q ∈ parts, Spells (.optional q.child) q.letters q.items) :
    Spells (.group .anySubset ps) (parts.flatMap Part.letters) (parts.flatMap Part.items) := by
  have hl (q : Part) (_ : q ∈ parts) (he : (!q.letters.isEmpty) = false) : q.letters = [] := by
    simpa using he
  have hi (q : Part) (hq : q ∈ parts) (he : (!q.letters.isEmpty) = false) : q.items = [] := by
    have hs := h q hq
    rw [hl q hq he] at hs
    exact hs.items_eq_nil
  have hne (q : Part) (hq : q ∈ parts.filter fun q => !q.letters.isEmpty) : q.letters ≠ [] := by
    simpa using (mem_filter.1 hq).2
  rw [← flatMap_filter_of_eq_nil hl, ← flatMap_filter_of_eq_nil hi]
  refine .anySubset _ ((filter_sublist.map _).subperm.trans hc) hne ?_
  intro q hq
  exact (h q (mem_filter.1 hq).1).of_optional (hne q hq)

theorem allOf_optional_of_parts (hps : ps ≠ []) (hc : parts.map Part.child <+~ ps)
    (h : ∀ q ∈ parts, Spells q.child q.letters q.items) :
    Spells (.group .allOf (ps.map .optional)) (parts.flatMap Part.letters)
      (parts.flatMap Part.items) := by
  -- `os` are the children that no part belongs to; each is put in as a part that is left out.
  obtain ⟨qs, hq, hs⟩ := hc
  obtain ⟨os, ho⟩ := hs.exists_perm_append
  have hp : (parts.map Part.optional ++ os.map Part.omitted).map Part.child ~ ps.map .optional := by
    rw [map_append, map_map, map_map]
    calc
      parts.map (Part.child ∘ Part.optional) ++ os.map (Part.child ∘ Part.omitted)
          = (parts.map Part.child ++ os).map .optional := by
            rw [map_append, map_map]
            rfl
      _ ~ (qs ++ os).map .optional := (hq.symm.append_right os).map _
      _ ~ ps.map .optional := (ho.map _).symm
  have hl : (parts.map Part.optional ++ os.map Part.omitted).flatMap Part.letters =
      parts.flatMap Part.letters := by
    simp [flatMap_map, Part.optional, Part.omitted]
  have hi : (parts.map Part.optional ++ os.map Part.omitted).flatMap Part.items =
      parts.flatMap Part.items := by
    simp [flatMap_map, Part.optional, Part.omitted]
  rw [← hl, ← hi]
  refine .allOf _ (by simpa using hps) hp ?_
  intro r hr
  rcases mem_append.1 hr with hr | hr
  · obtain ⟨q, hq, rfl⟩ := mem_map.1 hr
    exact .optional (h q hq)
  · obtain ⟨p, -, rfl⟩ := mem_map.1 hr
    exact .skip p

end Spells

theorem exists_optional_parts {parts : List Part} {ps : List Pattern}
    (hc : parts.map Part.child ~ ps.map .optional) :
    ∃ qs : List Part, parts = qs.map Part.optional ∧ qs.map Part.child ~ ps := by
  have hr : parts ∈ Set.range (map Part.optional) := by
    rw [Set.range_list_map]
    intro q hq
    obtain ⟨p, -, hp⟩ := mem_map.1 (hc.mem_iff.1 (mem_map_of_mem hq))
    exact ⟨⟨p, q.letters, q.items⟩, by rw [Part.optional, hp]⟩
  obtain ⟨qs, rfl⟩ := hr
  have hp : (qs.map Part.child).map Pattern.optional ~ ps.map .optional := by
    rw [map_map] at hc ⊢
    exact hc
  exact ⟨qs, rfl, (map_perm_map_iff fun p q h => by simpa using h).1 hp⟩

namespace Pattern

/-- Every match of `p` is one of `q`, with the same items and the same letters left. -/
def Within (p q : Pattern) : Prop :=
  ∀ v : Letters, (p.matcher v).toList.map Match.take ⊆ (q.matcher v).toList.map Match.take

variable {p q : Pattern} {ps qs : List Pattern}

theorem within_iff_takes : p.Within q ↔ ∀ w, p.takes w ⊆ q.takes w := by
  simp only [Within, map_take_matcher]
  constructor
  · intro h w
    simpa using h (.ofList w)
  · intro h v
    exact h v.toList

theorem within_of_spells (h : ∀ u is, Spells p u is → Spells q u is) : p.Within q := by
  rw [within_iff_takes]
  intro w s hs
  obtain ⟨u, hw, hu⟩ := (exact p w s).1 hs
  exact (exact q w s).2 ⟨u, hw, h u s.items hu⟩

theorem sequence_within_allOf (ps : List Pattern) :
    (group .sequence ps).Within (group .allOf ps) := by
  apply within_of_spells
  intro u is h
  cases h with
  | sequence parts hps hc h => exact .allOf parts hps (hc ▸ .refl _) h

theorem allOf_within_anySubset (ps : List Pattern) :
    (group .allOf ps).Within (group .anySubset ps) := by
  apply within_of_spells
  intro u is h
  cases h with
  | allOf parts _ hc h =>
    exact .anySubset_of_parts hc.subperm fun q hq => .optional (h q hq)

theorem oneOf_within_anySubset (ps : List Pattern) :
    (group .oneOf ps).Within (group .anySubset ps) := by
  apply within_of_spells
  intro u is h
  cases h with
  | @oneOf _ p _ _ hp h =>
    have hc : [(⟨p, u, is⟩ : Part)].map Part.child <+~ ps := singleton_subperm_iff.2 hp
    have hs := Spells.anySubset_of_parts hc (forall_mem_singleton.2 (.optional h))
    simpa using hs

theorem within_optional (p : Pattern) : p.Within (optional p) :=
  within_of_spells fun _ _ h => .optional h

theorem anySubset_within_of_subperm (h : ps <+~ qs) :
    (group .anySubset ps).Within (group .anySubset qs) := by
  apply within_of_spells
  intro u is hs
  cases hs with
  | anySubset parts hc hne hq => exact .anySubset parts (hc.trans h) hne hq

theorem anySubset_within_allOf_optional (hps : ps ≠ []) :
    (group .anySubset ps).Within (group .allOf (ps.map optional)) := by
  apply within_of_spells
  intro u is h
  cases h with
  | anySubset parts hc _ h => exact .allOf_optional_of_parts hps hc h

theorem allOf_optional_within_anySubset (ps : List Pattern) :
    (group .allOf (ps.map optional)).Within (group .anySubset ps) := by
  apply within_of_spells
  intro u is h
  cases h with
  | allOf parts _ hc h =>
    obtain ⟨qs, rfl, hq⟩ := exists_optional_parts hc
    have hs := Spells.anySubset_of_parts hq.subperm fun q hq => h _ (mem_map_of_mem hq)
    rw [flatMap_map, flatMap_map]
    exact hs

/-- To choose among children is to take all of them, in any order, where each may be left out: the
two have the same matches. A child that takes no letter is as good as left out. -/
theorem anySubset_same_as_optional (hps : ps ≠ []) :
    (group .anySubset ps).Within (group .allOf (ps.map optional)) ∧
      (group .allOf (ps.map optional)).Within (group .anySubset ps) :=
  ⟨anySubset_within_allOf_optional hps, allOf_optional_within_anySubset ps⟩

/-- Where each may be left out the same three matches are found in nine ways, since the first child
need not take a letter even where it is used. -/
theorem anySubset_same_as_optional_ab :
    let ps := [optional (literal "bee"), wildcard]
    let v := Letters.ofString "ab"
    ps ≠ [] ∧ ((group .anySubset ps).Within (group .allOf (ps.map optional)) ∧
      (group .allOf (ps.map optional)).Within (group .anySubset ps)) ∧
      ((group .anySubset ps).matcher v).toList.map Match.take = [⟨[], ['a', 'b']⟩,
        ⟨[.letter 'a'], ['b']⟩, ⟨[.letter 'a', .word "bee"], []⟩] ∧
      ((group .allOf (ps.map optional)).matcher v).toList.length = 9 := by
  intro ps v
  have hps : ps ≠ [] := by decide
  exact ⟨hps, anySubset_same_as_optional hps, by decide, by decide⟩

theorem oneOf_within_of_subset (h : ps ⊆ qs) : (group .oneOf ps).Within (group .oneOf qs) := by
  apply within_of_spells
  intro u is hs
  cases hs with
  | oneOf hp hs => exact .oneOf (h hp) hs

end Pattern

theorem Taker.congruence_subset : Congruence fun t u => ∀ w, t w ⊆ u w where
  none := fun _ => Subset.refl _
  skip := fun _ => Subset.refl _
  append hs ht := fun w => append_subset.2
    ⟨subset_append_of_subset_left _ (hs w), subset_append_of_subset_right _ (ht w)⟩
  nonempty ht := fun w => filter_subset _ (ht w)
  followed hs ht := by
    intro w x hx
    obtain ⟨h, hh, hx⟩ := mem_flatMap.1 hx
    exact mem_flatMap.2 ⟨h, hs w hh, map_subset _ (ht h.rest) hx⟩

inductive Context where
  | hole
  | optional (child : Context)
  | group (kind : Group) (before : List Pattern) (child : Context) (after : List Pattern)

def Context.fill (p : Pattern) : Context → Pattern
  | hole => p
  | optional c => .optional (c.fill p)
  | group g ps c qs => .group g (ps ++ c.fill p :: qs)

namespace Pattern
variable {p q : Pattern}

theorem Within.fill (h : p.Within q) (c : Context) : (c.fill p).Within (c.fill q) := by
  rw [within_iff_takes] at h ⊢
  induction c with
  | hole => exact h
  | optional c ih => exact Taker.congruence_subset.optional ih
  | group g ps c qs ih =>
    have hr (l : List Pattern) : Forall₂ (fun p q => ∀ w, p.takes w ⊆ q.takes w) l l :=
      forall₂_same.2 fun p _ w => Subset.refl (p.takes w)
    exact Taker.congruence_subset.takes_group g (rel_append (hr ps) (.cons ih (hr qs)))

/-- The groups in the order of what they admit, and the ways to relax a pattern: let a part be left
out, offer one more child, or relax a part anywhere within it. -/
theorem within_relaxed (ps qs : List Pattern) (p q : Pattern) (c : Context) :
    (group .sequence ps).Within (group .allOf ps) ∧
      (group .allOf ps).Within (group .anySubset ps) ∧
      (group .oneOf ps).Within (group .anySubset ps) ∧
      p.Within (optional p) ∧
      (group .anySubset (ps ++ qs)).Within (group .anySubset (ps ++ p :: qs)) ∧
      (group .oneOf (ps ++ qs)).Within (group .oneOf (ps ++ p :: qs)) ∧
      (p.Within q → (c.fill p).Within (c.fill q)) := by
  have hs : ps ++ qs <+ ps ++ p :: qs := (sublist_cons_self p qs).append_left ps
  exact ⟨sequence_within_allOf ps, allOf_within_anySubset ps, oneOf_within_anySubset ps,
    within_optional p, anySubset_within_of_subperm hs.subperm, oneOf_within_of_subset hs.subset,
    fun h => h.fill c⟩

theorem within_relaxed_bac :
    let p := group .sequence [literal "an", literal "bee"]
    let q := group .allOf [literal "an", literal "bee"]
    let c := Context.group .sequence [] .hole [optional wildcard]
    let v := Letters.ofString "bac"
    p.Within q ∧ (c.fill p).Within (c.fill q) ∧
      ((c.fill p).matcher v).toList.map Match.take = [] ∧
      ((c.fill q).matcher v).toList.map Match.take = [⟨[.word "bee", .word "an"], ['c']⟩,
        ⟨[.word "bee", .word "an", .letter 'c'], []⟩] := by
  intro p q c v
  have hpq : p.Within q := sequence_within_allOf [literal "an", literal "bee"]
  obtain ⟨-, -, -, -, -, -, hc⟩ := within_relaxed [] [] p q c
  exact ⟨hpq, hc hpq, by decide, by decide⟩

end Pattern
end Initialism
