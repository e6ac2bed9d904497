import Mathlib.Algebra.Order.BigOperators.Group.List
import Initialism.CommandLine.Session
import Initialism.Proofs.Match.Spliced
import Initialism.Proofs.Pattern.Adjacent

/-! Several constraints against one. With blanks between them the constraints of a call are one
expression. It offers all their terms at once, where the call offers each constraint as a whole, so
it has every match of the call. -/
namespace Initialism
open List

namespace Pattern
variable {ts : List Pattern}

theorem joined_of_two_le (h : 2 ≤ ts.length) : joined ts = group .anySubset ts := by
  match ts with
  | [] => rfl
  | [p] => simp at h
  | p :: q :: ts => rfl

theorem joined_within_anySubset (ts : List Pattern) : (joined ts).Within (group .anySubset ts) := by
  match ts with
  | [] => exact fun _ => Subset.refl _
  | [p] => exact within_anySubset_of_mem mem_cons_self
  | p :: q :: ts => exact fun _ => Subset.refl _

end Pattern

namespace CommandLine
open Pattern (IsRead IsWrittenAs joined group)
variable {i : Invocation} {es : List String} {terms : String → List Pattern}

theorem combined_eq_joined (ps : List Pattern) : Invocation.combined ps = joined ps := by
  match ps with
  | [] => rfl
  | [p] => rfl
  | p :: q :: ps => rfl

theorem patterns_eq_ok (h : ∀ e ∈ es, IsRead e (terms e)) :
    Invocation.patterns es = .ok (es.map fun e => joined (terms e)) := by
  induction es with
  | nil => rfl
  | cons e es ih =>
    obtain ⟨he, hes⟩ := forall_mem_cons.1 h
    rw [Invocation.patterns, he.parse_eq, ih hes]
    rfl

theorem length_le_length_flatMap_terms (h : ∀ e ∈ es, IsRead e (terms e)) :
    es.length ≤ (es.flatMap terms).length := by
  have hs := length_le_sum_of_one_le (es.map fun e => (terms e).length) fun n hn => by
    obtain ⟨e, he, rfl⟩ := mem_map.1 hn
    exact length_pos_iff.2 (h e he).ne_nil
  rwa [length_map, ← length_flatMap] at hs

theorem map_joined_eq_flatMap (h : ∀ e ∈ es, ∃ t, terms e = [t]) :
    (es.map fun e => joined (terms e)) = es.flatMap terms := by
  rw [map_eq_flatMap]
  refine flatMap_congr fun e he => ?_
  obtain ⟨t, ht⟩ := h e he
  rw [ht]
  rfl

/-- Constraints that can be read one by one can be read as one expression, with blanks between them.
Where each is a single term the pattern is the same; in any case every match of the constraints is
one of that expression, with the same items and the same letters left. -/
theorem pattern_within_joined (hn : 2 ≤ i.constraints.length)
    (hp : ∀ e ∈ i.constraints, ∃ p, Pattern.parse e = .ok p) :
    ∃ p q, i.pattern = .ok p ∧ Pattern.parse (" ".intercalate i.constraints) = .ok q ∧
      ((∀ e ∈ i.constraints, ∃ t, IsWrittenAs e [t]) → p = q) ∧ p.Within q := by
  have hr (e : String) (he : e ∈ i.constraints) : ∃ ts, IsRead e ts := by
    obtain ⟨p, hp⟩ := hp e he
    obtain ⟨ts, hts, -⟩ := Pattern.exists_isRead_of_parse hp
    exact ⟨ts, hts⟩
  choose! terms hterms using hr
  have hne : i.constraints ≠ [] := ne_nil_of_length_pos (by omega)
  refine ⟨joined (i.constraints.map fun e => joined (terms e)),
    joined (i.constraints.flatMap terms), ?_, (IsRead.intercalate hterms hne).parse_eq, ?_, ?_⟩
  · rw [Invocation.pattern, patterns_eq_ok hterms]
    exact congrArg Except.ok (combined_eq_joined _)
  · intro hs
    rw [map_joined_eq_flatMap fun e he => ?_]
    obtain ⟨t, ht⟩ := hs e he
    exact ⟨t, (hterms e he).eq_of_isWrittenAs ht⟩
  · have hl := length_le_length_flatMap_terms hterms
    rw [Pattern.joined_of_two_le (by simpa using hn), Pattern.joined_of_two_le (by omega)]
    exact Pattern.anySubset_within_flatMap fun e _ => Pattern.joined_within_anySubset (terms e)

theorem pattern_within_joined_acb :
    let i : Invocation := ⟨["an bee", "cat"], false, none, none, none, none⟩
    let j : Invocation := ⟨["\x7ban bee\x7d", "cat"], false, none, none, none, none⟩
    let two := group .anySubset [.literal "an", .literal "bee"]
    let p := group .anySubset [two, .literal "cat"]
    let q := group .anySubset [.literal "an", .literal "bee", .literal "cat"]
    let v := Letters.ofString "acb"
    i.pattern = .ok p ∧ Pattern.parse "an bee cat" = .ok q ∧ p.Within q ∧
      (p.spellings v).toList.map Match.take = [] ∧
      (q.spellings v).toList.map Match.take = [⟨[.word "an", .word "cat", .word "bee"], []⟩] ∧
      j.pattern = .ok p ∧ Pattern.parse "\x7ban bee\x7d cat" = .ok p := by
  intro i j two p q v
  have ha : Pattern.parse "an bee" = .ok two := by
    rw [Pattern.parse_eq_outcome]
    rfl
  have hb : Pattern.parse "\x7ban bee\x7d" = .ok two := by
    rw [Pattern.parse_eq_outcome]
    rfl
  have hc : Pattern.parse "cat" = .ok (.literal "cat") := by
    rw [Pattern.parse_eq_outcome]
    rfl
  have hi : i.pattern = .ok p := by
    simp [i, p, Invocation.pattern, Invocation.patterns, ha, hc, Except.map, Invocation.combined]
  have hj : j.pattern = .ok p := by
    simp [j, p, Invocation.pattern, Invocation.patterns, hb, hc, Except.map, Invocation.combined]
  have hs : ∀ e ∈ j.constraints, ∃ t, IsWrittenAs e [t] :=
    forall_mem_cons.2 ⟨⟨two, by simp, by decide, by decide⟩,
      forall_mem_singleton.2 ⟨.literal "cat", by simp, by decide, by decide⟩⟩
  obtain ⟨p₁, q₁, hp₁, hq₁, -, hw⟩ := @pattern_within_joined i (by decide)
    (forall_mem_cons.2 ⟨⟨_, ha⟩, forall_mem_singleton.2 ⟨_, hc⟩⟩)
  obtain ⟨p₂, q₂, hp₂, hq₂, he, -⟩ := @pattern_within_joined j (by decide)
    (forall_mem_cons.2 ⟨⟨_, hb⟩, forall_mem_singleton.2 ⟨_, hc⟩⟩)
  have hq : Pattern.parse "an bee cat" = .ok q := by
    rw [Pattern.parse_eq_outcome]
    rfl
  obtain rfl := Except.ok.inj (hi.symm.trans hp₁)
  obtain rfl := Except.ok.inj (hq.symm.trans hq₁)
  obtain rfl := Except.ok.inj (hj.symm.trans hp₂)
  have hj₂ : Pattern.parse "\x7ban bee\x7d cat" = .ok p := by
    rw [he hs]
    exact hq₂
  exact ⟨hi, hq, hw, by decide, by decide, hj, hj₂⟩

end CommandLine
end Initialism
