import Initialism.Proofs.Match.Consumed
import Initialism.Proofs.Pattern.RoundTrip

/-! Shortest and longest words. Where each literal has a first letter and each group a child, as in
all patterns that are read from text, the least and the greatest length of a pattern are both the
length of a word that it spells. So the bounds on its matches cannot be narrowed. -/
namespace Initialism
open List

namespace Pattern

/-- No literal is without a letter, and no group without a child. -/
def IsFilled (p : Pattern) : Prop :=
  ∀ q ∈ p.nodes, q ≠ literal "" ∧ (q.group?.isSome → q.children ≠ [])

instance (p : Pattern) : Decidable p.IsFilled := inferInstanceAs (Decidable (∀ q ∈ p.nodes, _))

def Reaches (p : Pattern) (n : Nat) : Prop := ∃ u is, Spells p u is ∧ u.length = n

variable {p : Pattern} {ps : List Pattern} {g : Group} {f : Pattern → Nat} {n : Nat}

theorem IsFilled.of_optional (h : (optional p).IsFilled) : p.IsFilled := by
  intro q hq
  exact h q (mem_cons_of_mem _ hq)

theorem IsFilled.of_mem (h : (group g ps).IsFilled) (hp : p ∈ ps) : p.IsFilled :=
  fun q hq => h q (mem_nodes_group hp hq)

theorem IsFilled.ne_nil (h : (group g ps).IsFilled) : ps ≠ [] := (h _ mem_cons_self).2 rfl

theorem isFilled_of_isWellFormed (h : p.isWellFormed) : p.IsFilled := by
  intro q hq
  have hw := isWellFormed_of_mem_nodes h hq
  constructor
  · rintro rfl
    cases hw
  · intro hg
    cases q with
    | group g qs =>
      rintro rfl
      cases hw
    | literal w => cases hg
    | wildcard => cases hg
    | optional q => cases hg

theorem IsFilled.maxLength_pos (h : p.IsFilled) : 0 < p.maxLength := by
  induction p with
  | literal w => exact Nat.one_pos
  | wildcard => exact Nat.one_pos
  | optional p ih => exact ih h.of_optional
  | group g ps ih =>
    obtain ⟨p, hp⟩ := exists_mem_of_ne_nil ps h.ne_nil
    have hm : p.maxLength ∈ ps.map maxLength := mem_map_of_mem hp
    have hpos := ih p hp (h.of_mem hp)
    by_cases hg : g = .oneOf
    · subst hg
      exact maxLength_oneOf ps ▸ hpos.trans_le (le_max?_getD_of_mem hm)
    · exact maxLength_group ps hg ▸ hpos.trans_le (le_sum_of_mem hm)

theorem exists_parts_of_reaches (h : ∀ p ∈ ps, p.Reaches (f p)) :
    ∃ parts : List Part, parts.map Part.child = ps ∧
      (∀ q ∈ parts, Spells q.child q.letters q.items ∧ q.letters.length = f q.child) ∧
      (parts.flatMap Part.letters).length = (ps.map f).sum := by
  induction ps with
  | nil => exact ⟨[], rfl, by simp, rfl⟩
  | cons p ps ih =>
    obtain ⟨⟨u, is, hs, hl⟩, hps⟩ := forall_mem_cons.1 h
    obtain ⟨parts, rfl, hq, hn⟩ := ih hps
    refine ⟨⟨p, u, is⟩ :: parts, rfl, forall_mem_cons.2 ⟨⟨hs, hl⟩, hq⟩, ?_⟩
    rw [flatMap_cons, length_append, hn, map_cons, sum_cons, ← hl]

theorem reaches_sequence (hps : ps ≠ []) (h : ∀ p ∈ ps, p.Reaches (f p)) :
    (group .sequence ps).Reaches (ps.map f).sum := by
  obtain ⟨parts, hc, hq, hn⟩ := exists_parts_of_reaches h
  exact ⟨_, _, .sequence parts hps hc fun q hm => (hq q hm).1, hn⟩

theorem reaches_allOf (hps : ps ≠ []) (h : ∀ p ∈ ps, p.Reaches (f p)) :
    (group .allOf ps).Reaches (ps.map f).sum := by
  obtain ⟨parts, hc, hq, hn⟩ := exists_parts_of_reaches h
  exact ⟨_, _, .allOf parts hps (.of_eq hc) fun q hm => (hq q hm).1, hn⟩

/-- All children are used, which is a choice only if each takes a letter. -/
theorem reaches_anySubset (h : ∀ p ∈ ps, p.Reaches (f p)) (hf : ∀ p ∈ ps, 0 < f p) :
    (group .anySubset ps).Reaches (ps.map f).sum := by
  obtain ⟨parts, hc, hq, hn⟩ := exists_parts_of_reaches h
  have hne (q : Part) (hm : q ∈ parts) : q.letters ≠ [] := by
    rw [← length_pos_iff, (hq q hm).2]
    exact hf q.child (hc ▸ mem_map_of_mem hm)
  exact ⟨_, _, .anySubset parts (hc ▸ .refl _) hne fun q hm => (hq q hm).1, hn⟩

theorem reaches_oneOf (hp : p ∈ ps) (h : p.Reaches n) : (group .oneOf ps).Reaches n := by
  obtain ⟨u, is, hs, hl⟩ := h
  exact ⟨u, is, .oneOf hp hs, hl⟩

theorem reaches_literal {w : String} (h : w ≠ "") : (literal w).Reaches 1 := by
  cases hw : w.toList with
  | nil => exact absurd (String.toList_eq_nil_iff.1 hw) h
  | cons c cs => exact ⟨[c], _, .literal (by rw [hw, head?_cons]) (Text.sameLetter_refl c), rfl⟩

theorem reaches_wildcard : wildcard.Reaches 1 := ⟨['a'], _, .wildcard 'a', rfl⟩

theorem Reaches.optional (h : p.Reaches n) : (optional p).Reaches n := by
  obtain ⟨u, is, hs, hl⟩ := h
  exact ⟨u, is, .optional hs, hl⟩

theorem exists_mem_min? (hps : ps ≠ []) : ∃ p ∈ ps, f p = (ps.map f).min?.getD 0 := by
  have hn : ps.map f ≠ [] := by simpa using hps
  have hm := mem_map.1 (List.min_mem hn)
  obtain ⟨p, hp, he⟩ := hm
  exact ⟨p, hp, by rw [he, min?_eq_some_min hn, Option.getD_some]⟩

theorem exists_mem_max? (hps : ps ≠ []) : ∃ p ∈ ps, f p = (ps.map f).max?.getD 0 := by
  have hn : ps.map f ≠ [] := by simpa using hps
  have hm := mem_map.1 (List.max_mem hn)
  obtain ⟨p, hp, he⟩ := hm
  exact ⟨p, hp, by rw [he, max?_eq_some_max hn, Option.getD_some]⟩

theorem IsFilled.reaches_minLength (h : p.IsFilled) : p.Reaches p.minLength := by
  induction p with
  | literal w => exact reaches_literal fun hw => (h _ (mem_singleton_self _)).1 (hw ▸ rfl)
  | wildcard => exact reaches_wildcard
  | optional p => exact ⟨[], [], .skip p, rfl⟩
  | group g ps ih =>
    have hr (p : Pattern) (hp : p ∈ ps) : p.Reaches p.minLength := ih p hp (h.of_mem hp)
    cases g with
    | sequence =>
      rw [minLength_group ps (.inl rfl)]
      exact reaches_sequence h.ne_nil hr
    | allOf =>
      rw [minLength_group ps (.inr rfl)]
      exact reaches_allOf h.ne_nil hr
    | anySubset => exact ⟨[], [], .anySubset [] nil_subperm (by simp) (by simp), rfl⟩
    | oneOf =>
      obtain ⟨p, hp, he⟩ := exists_mem_min? (f := minLength) h.ne_nil
      rw [minLength_oneOf, ← he]
      exact reaches_oneOf hp (hr p hp)

theorem IsFilled.reaches_maxLength (h : p.IsFilled) : p.Reaches p.maxLength := by
  induction p with
  | literal w => exact reaches_literal fun hw => (h _ (mem_singleton_self _)).1 (hw ▸ rfl)
  | wildcard => exact reaches_wildcard
  | optional p ih => exact (ih h.of_optional).optional
  | group g ps ih =>
    have hr (p : Pattern) (hp : p ∈ ps) : p.Reaches p.maxLength := ih p hp (h.of_mem hp)
    have hpos (p : Pattern) (hp : p ∈ ps) : 0 < p.maxLength := (h.of_mem hp).maxLength_pos
    cases g with
    | sequence =>
      rw [maxLength_group ps (by decide)]
      exact reaches_sequence h.ne_nil hr
    | allOf =>
      rw [maxLength_group ps (by decide)]
      exact reaches_allOf h.ne_nil hr
    | anySubset =>
      rw [maxLength_group ps (by decide)]
      exact reaches_anySubset hr hpos
    | oneOf =>
      obtain ⟨p, hp, he⟩ := exists_mem_max? (f := maxLength) h.ne_nil
      rw [maxLength_oneOf, ← he]
      exact reaches_oneOf hp (hr p hp)

theorem Reaches.exists_word (h : p.Reaches n) :
    ∃ w : String, w.length = n ∧ (p.spellings (.ofString w)).toList ≠ [] := by
  obtain ⟨u, is, hs, rfl⟩ := h
  refine ⟨String.ofList u, String.length_ofList, ?_⟩
  have ht : (⟨is, []⟩ : Take) ∈ p.takes u := (exact p u _).2 ⟨u, (append_nil u).symm, hs⟩
  have hl : 0 < (p.spellings (.ofList u)).toList.length := by
    rw [length_spellings, Letters.toList_ofList, countP_pos_iff]
    exact ⟨_, ht, rfl⟩
  rw [Letters.ofString, String.toList_ofList]
  exact length_pos_iff.1 hl

/-- There is a word of the least length with a match that leaves nothing, and one of the greatest,
wherever literals have a letter and groups have a child; and whatever is read from text is such a
pattern. -/
theorem lengths_attained (p : Pattern) :
    (p.IsFilled →
      (∃ w : String, w.length = p.minLength ∧ (p.spellings (.ofString w)).toList ≠ []) ∧
        ∃ w : String, w.length = p.maxLength ∧ (p.spellings (.ofString w)).toList ≠ []) ∧
      ∀ source, parse source = .ok p → p.IsFilled :=
  ⟨fun h => ⟨h.reaches_minLength.exists_word, h.reaches_maxLength.exists_word⟩,
    fun _ h => isFilled_of_isWellFormed (isWellFormed_of_parse h)⟩

theorem lengths_attained_two_five :
    let p := group .sequence [group .oneOf [group .allOf [literal "an", wildcard], literal "bee"],
      wildcard, group .anySubset [optional (literal "cat"), wildcard]]
    p.IsFilled ∧ p.minLength = 2 ∧ p.maxLength = 5 ∧
      (∃ w : String, w.length = 2 ∧ (p.spellings (.ofString w)).toList ≠ []) ∧
        ∃ w : String, w.length = 5 ∧ (p.spellings (.ofString w)).toList ≠ [] := by
  intro p
  have hp : p.IsFilled := by decide
  exact ⟨hp, rfl, rfl, (lengths_attained p).1 hp⟩

end Pattern
end Initialism
