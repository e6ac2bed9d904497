import Initialism.Proofs.Match.Take

/-! What a pattern spells, said without anything left over: each leaf takes one letter, and a group
puts pieces of its children together. Matching finds exactly the pieces that stand at the front of a
word. -/
namespace Initialism
open List

/-- A child of a group, with the letters and the items it has in the whole. -/
structure Part where
  child : Pattern
  letters : List Char
  items : List Item

inductive Spells : Pattern → List Char → List Item → Prop where
  | literal {w : String} {c i : Char} (hi : w.toList.head? = some i)
      (hc : Text.sameLetter c i = true) : Spells (.literal w) [c] [.word w]
  | wildcard (c : Char) : Spells .wildcard [c] [.letter c]
  | skip (p : Pattern) : Spells (.optional p) [] []
  | optional {p : Pattern} {u : List Char} {is : List Item} (h : Spells p u is) :
      Spells (.optional p) u is
  | sequence {ps : List Pattern} (parts : List Part) (hps : ps ≠ [])
      (hc : parts.map Part.child = ps)
      (h : ∀ q ∈ parts, Spells q.child q.letters q.items) :
      Spells (.group .sequence ps) (parts.flatMap Part.letters) (parts.flatMap Part.items)
  | allOf {ps : List Pattern} (parts : List Part) (hps : ps ≠ [])
      (hc : parts.map Part.child ~ ps)
      (h : ∀ q ∈ parts, Spells q.child q.letters q.items) :
      Spells (.group .allOf ps) (parts.flatMap Part.letters) (parts.flatMap Part.items)
  /-- any of the children, none twice, each with a letter of its own -/
  | anySubset {ps : List Pattern} (parts : List Part) (hc : parts.map Part.child <+~ ps)
      (hne : ∀ q ∈ parts, q.letters ≠ [])
      (h : ∀ q ∈ parts, Spells q.child q.letters q.items) :
      Spells (.group .anySubset ps) (parts.flatMap Part.letters) (parts.flatMap Part.items)
  | oneOf {ps : List Pattern} {p : Pattern} {u : List Char} {is : List Item} (hp : p ∈ ps)
      (h : Spells p u is) : Spells (.group .oneOf ps) u is

structure Splits (parts : List Part) (w : List Char) (s : Take) : Prop where
  spelled : ∀ q ∈ parts, Spells q.child q.letters q.items
  letters : w = parts.flatMap Part.letters ++ s.rest
  items : s.items = parts.flatMap Part.items

namespace Splits
variable {q : Part} {parts : List Part} {w r : List Char} {s t : Take}

theorem nil_iff : Splits [] w s ↔ s = .skip w := by
  constructor
  · intro h
    obtain ⟨-, hw, hi⟩ := h
    obtain ⟨is, r⟩ := s
    obtain rfl : w = r := hw
    obtain rfl : is = [] := hi
    rfl
  · intro h
    subst h
    exact ⟨by simp, rfl, rfl⟩

theorem singleton_iff : Splits [q] w s ↔
    Spells q.child q.letters q.items ∧ w = q.letters ++ s.rest ∧ s.items = q.items := by
  constructor
  · intro h
    obtain ⟨h, hw, hi⟩ := h
    exact ⟨h q (by simp), by simpa using hw, by simpa using hi⟩
  · intro h
    obtain ⟨h, hw, hi⟩ := h
    exact ⟨by simpa using h, by simpa using hw, by simpa using hi⟩

theorem cons_iff : Splits (q :: parts) w s ↔
    ∃ h t, Splits [q] w h ∧ Splits parts h.rest t ∧ s = h.andThen t := by
  constructor
  · intro h
    obtain ⟨hs, hw, hi⟩ := h
    rw [flatMap_cons] at hw hi
    refine ⟨⟨q.items, parts.flatMap Part.letters ++ s.rest⟩, ⟨parts.flatMap Part.items, s.rest⟩,
      singleton_iff.2 ⟨hs q (by simp), by rw [hw, append_assoc], rfl⟩,
      ⟨fun p hp => hs p (by simp [hp]), rfl, rfl⟩, ?_⟩
    obtain ⟨is, r⟩ := s
    exact congrArg (Take.mk · r) hi
  · intro h
    obtain ⟨h, t, hq, ⟨hs, hw, hi⟩, rfl⟩ := h
    obtain ⟨hq, hqw, hqi⟩ := singleton_iff.1 hq
    refine ⟨forall_mem_cons.2 ⟨hq, hs⟩, ?_, ?_⟩
    · rw [hqw, hw, flatMap_cons, append_assoc, Take.rest_andThen]
    · rw [Take.items_andThen, hqi, hi, flatMap_cons]

end Splits

namespace Taker

/-- What `t` takes is what is taken by the lists of parts that `R` allows. -/
def Recognizes (t : Taker) (R : List Part → Prop) : Prop :=
  ∀ w s, s ∈ t w ↔ ∃ parts, R parts ∧ Splits parts w s

variable {t next : Taker} {Q : Part → Prop} {R : List Part → Prop}

theorem Recognizes.followed (ht : t.Recognizes fun parts => ∃ q, parts = [q] ∧ Q q)
    (hn : next.Recognizes R) :
    (t.followed next).Recognizes fun parts => ∃ q qs, parts = q :: qs ∧ Q q ∧ R qs := by
  intro w s
  rw [Taker.followed, mem_flatMap]
  constructor
  · intro h
    obtain ⟨h, hh, hs⟩ := h
    obtain ⟨u, hu, rfl⟩ := mem_map.1 hs
    obtain ⟨_, ⟨q, rfl, hq⟩, hqw⟩ := (ht w h).1 hh
    obtain ⟨qs, hqs, hr⟩ := (hn h.rest u).1 hu
    exact ⟨q :: qs, ⟨q, qs, rfl, hq, hqs⟩, Splits.cons_iff.2 ⟨h, u, hqw, hr, rfl⟩⟩
  · intro h
    obtain ⟨_, ⟨q, qs, rfl, hq, hqs⟩, hs⟩ := h
    obtain ⟨h, u, hqw, hr, rfl⟩ := Splits.cons_iff.1 hs
    exact ⟨h, (ht w h).2 ⟨[q], ⟨q, rfl, hq⟩, hqw⟩,
      mem_map_of_mem ((hn h.rest u).2 ⟨qs, hqs, hr⟩)⟩

theorem Recognizes.nonempty (ht : t.Recognizes fun parts => ∃ q, parts = [q] ∧ Q q) :
    t.nonempty.Recognizes fun parts => ∃ q, parts = [q] ∧ Q q ∧ q.letters ≠ [] := by
  intro w s
  -- With a single part, the letters that are gone are those of the part.
  have hlt {q : Part} (hs : Splits [q] w s) : s.rest.length < w.length ↔ q.letters ≠ [] := by
    rw [(Splits.singleton_iff.1 hs).2.1, length_append, ← length_pos_iff]
    omega
  rw [Taker.nonempty, mem_filter, ht w s, decide_eq_true_eq]
  constructor
  · intro h
    obtain ⟨⟨_, ⟨q, rfl, hq⟩, hs⟩, hl⟩ := h
    exact ⟨[q], ⟨q, rfl, hq, (hlt hs).1 hl⟩, hs⟩
  · intro h
    obtain ⟨_, ⟨q, rfl, hq, hne⟩, hs⟩ := h
    exact ⟨⟨[q], ⟨q, rfl, hq⟩, hs⟩, (hlt hs).2 hne⟩

theorem Recognizes.congr {R' : List Part → Prop} (ht : t.Recognizes R)
    (h : ∀ parts, R parts ↔ R' parts) : t.Recognizes R' := by
  intro w s
  simp only [ht w s, h]

theorem recognizes_flatMap {α : Type*} {l : List α} {f : α → Taker} {S : α → List Part → Prop}
    (h : ∀ a ∈ l, (f a).Recognizes (S a)) :
    Recognizes (fun w => l.flatMap fun a => f a w) fun parts => ∃ a ∈ l, S a parts := by
  intro w s
  rw [mem_flatMap]
  constructor
  · intro h
    obtain ⟨a, ha, hs⟩ := h
    obtain ⟨parts, hp, hw⟩ := (h a ha w s).1 hs
    exact ⟨parts, ⟨a, ha, hp⟩, hw⟩
  · intro h
    obtain ⟨parts, ⟨a, ha, hp⟩, hw⟩ := h
    exact ⟨a, ha, (h a ha w s).2 ⟨parts, hp, hw⟩⟩

end Taker

namespace Pattern

def Exact (p : Pattern) : Prop :=
  ∀ w s, s ∈ p.takes w ↔ ∃ u, w = u ++ s.rest ∧ Spells p u s.items

variable {p : Pattern} {ps : List Pattern}

theorem Exact.recognizes (h : p.Exact) :
    p.takes.Recognizes fun parts => ∃ q, parts = [q] ∧ q.child = p := by
  intro w s
  rw [h w s]
  constructor
  · intro h
    obtain ⟨u, hw, hs⟩ := h
    exact ⟨_, ⟨⟨p, u, s.items⟩, rfl, rfl⟩, Splits.singleton_iff.2 ⟨hs, hw, rfl⟩⟩
  · intro h
    obtain ⟨_, ⟨q, rfl, rfl⟩, hs⟩ := h
    obtain ⟨hq, hw, hi⟩ := Splits.singleton_iff.1 hs
    exact ⟨q.letters, hw, hi ▸ hq⟩

theorem recognizes_sequence (hps : ps ≠ []) (h : ∀ p ∈ ps, p.Exact) :
    (Taker.sequence (ps.map takes)).Recognizes fun parts => parts.map Part.child = ps := by
  induction ps with
  | nil => exact absurd rfl hps
  | cons p ps ih =>
    have hp := (h p (by simp)).recognizes
    cases ps with
    | nil => simpa [Taker.sequence, map_eq_singleton_iff] using hp
    | cons q ps =>
      have hs := hp.followed (ih (by simp) fun r hr => h r (mem_cons_of_mem p hr))
      simpa [Taker.sequence, map_eq_cons_iff] using hs

theorem recognizes_allOf (hps : ps ≠ []) (h : ∀ p ∈ ps, p.Exact) :
    (group .allOf ps).takes.Recognizes fun parts => parts.map Part.child ~ ps := by
  induction hn : ps.length using Nat.strongRecOn generalizing ps with
  | ind n ih =>
    have hp := length_pos_iff.2 hps
    by_cases hl : 1 < ps.length
    · have hs (s) (hs : s ∈ withOthers ps) :
          (s.1.takes.followed (group .allOf s.2).takes).Recognizes fun parts =>
            ∃ q qs, parts = q :: qs ∧ q.child = s.1 ∧ qs.map Part.child ~ s.2 := by
        have hls := length_of_mem_withOthers hs
        have hm := mem_of_mem_withOthers hs
        have hne : s.2 ≠ [] := by
          rw [← length_pos_iff]
          omega
        exact (h s.1 hm.1).recognizes.followed
          (ih s.2.length (by omega) hne (fun q hq => h q (hm.2 q hq)) rfl)
      rw [funext (takes_allOf hl)]
      refine (Taker.recognizes_flatMap hs).congr fun parts => ?_
      cases parts with
      | nil => simpa using hps
      | cons q qs => simp [cons_perm_iff_withOthers]
    · obtain ⟨p, rfl⟩ := length_eq_one_iff.1 (show ps.length = 1 by omega)
      change p.takes.Recognizes _
      simpa [map_eq_singleton_iff] using (h p (by simp)).recognizes

theorem recognizes_anySubset (h : ∀ p ∈ ps, p.Exact) :
    (group .anySubset ps).takes.Recognizes fun parts =>
      parts.map Part.child <+~ ps ∧ ∀ q ∈ parts, q.letters ≠ [] := by
  induction hn : ps.length using Nat.strongRecOn generalizing ps with
  | ind n ih =>
    have hs (s) (hs : s ∈ withOthers ps) :
        (s.1.takes.nonempty.followed (group .anySubset s.2).takes).Recognizes fun parts =>
          ∃ q qs, parts = q :: qs ∧ (q.child = s.1 ∧ q.letters ≠ []) ∧
            qs.map Part.child <+~ s.2 ∧ ∀ q ∈ qs, q.letters ≠ [] := by
      have hl := length_of_mem_withOthers hs
      have hm := mem_of_mem_withOthers hs
      exact (h s.1 hm.1).recognizes.nonempty.followed
        (ih s.2.length (by omega) (fun q hq => h q (hm.2 q hq)) rfl)
    intro w s
    rw [takes_anySubset, mem_cons, Taker.recognizes_flatMap hs w s]
    constructor
    · intro h
      rcases h with rfl | ⟨_, ⟨s, hm, q, qs, rfl, ⟨hq, hne⟩, hqs, hnes⟩, hw⟩
      · exact ⟨[], ⟨nil_subperm, by simp⟩, Splits.nil_iff.2 rfl⟩
      · exact ⟨q :: qs, ⟨cons_subperm_iff_withOthers.2 ⟨s, hm, hq, hqs⟩,
          forall_mem_cons.2 ⟨hne, hnes⟩⟩, hw⟩
    · intro h
      obtain ⟨parts, ⟨hc, hne⟩, hw⟩ := h
      cases parts with
      | nil => exact .inl (Splits.nil_iff.1 hw)
      | cons q qs =>
        obtain ⟨s, hm, hq, hqs⟩ := cons_subperm_iff_withOthers.1 hc
        obtain ⟨hn, hnes⟩ := forall_mem_cons.1 hne
        exact .inr ⟨_, ⟨s, hm, q, qs, rfl, ⟨hq, hn⟩, hqs, hnes⟩, hw⟩

theorem exact_literal (w : String) : (literal w).Exact := by
  intro v s
  obtain ⟨is, r⟩ := s
  constructor
  · intro h
    cases v with
    | nil => simp [takes, Taker.literal] at h
    | cons c v =>
      cases hi : w.toList.head? with
      | none => simp [takes, Taker.literal, hi] at h
      | some i =>
        simp only [takes, Taker.literal, hi, mem_ite_nil_right, mem_singleton, Take.mk.injEq] at h
        obtain ⟨hc, rfl, rfl⟩ := h
        exact ⟨[c], rfl, .literal hi hc⟩
  · intro h
    obtain ⟨u, rfl, h⟩ := h
    cases h with
    | literal hi hc => simp [takes, Taker.literal, hi, hc]

theorem exact_wildcard : wildcard.Exact := by
  intro w s
  obtain ⟨is, r⟩ := s
  constructor
  · intro h
    cases w with
    | nil => simp [takes, Taker.wildcard] at h
    | cons c w =>
      simp only [takes, Taker.wildcard, mem_singleton, Take.mk.injEq] at h
      obtain ⟨rfl, rfl⟩ := h
      exact ⟨[c], rfl, .wildcard c⟩
  · intro h
    obtain ⟨u, rfl, h⟩ := h
    cases h with
    | wildcard c => simp [takes, Taker.wildcard]

theorem Exact.optional (h : p.Exact) : (optional p).Exact := by
  intro w s
  obtain ⟨is, r⟩ := s
  rw [takes, Taker.optional, mem_cons, h w]
  constructor
  · intro h
    rcases h with hs | ⟨u, hw, hs⟩
    · obtain ⟨rfl, rfl⟩ := Take.mk.inj hs
      exact ⟨[], rfl, .skip p⟩
    · exact ⟨u, hw, .optional hs⟩
  · intro h
    obtain ⟨u, hw, hs⟩ := h
    cases hs with
    | skip => exact .inl (by rw [hw]; rfl)
    | optional hs => exact .inr ⟨u, hw, hs⟩

/-- A group that puts parts together in the ways `R` allows is exact if spelling it says just
that. -/
theorem exact_of_recognizes {R : List Part → Prop} (ht : p.takes.Recognizes R)
    (hs : ∀ u is, Spells p u is ↔ ∃ parts, R parts ∧
      (∀ q ∈ parts, Spells q.child q.letters q.items) ∧
        u = parts.flatMap Part.letters ∧ is = parts.flatMap Part.items) : p.Exact := by
  intro w s
  rw [ht w s]
  constructor
  · intro h
    obtain ⟨parts, hR, hq, hw, hi⟩ := h
    exact ⟨_, hw, (hs _ _).2 ⟨parts, hR, hq, rfl, hi⟩⟩
  · intro h
    obtain ⟨u, rfl, h⟩ := h
    obtain ⟨parts, hR, hq, rfl, hi⟩ := (hs _ _).1 h
    exact ⟨parts, hR, hq, rfl, hi⟩

theorem exact_childless {g : Group} (hg : g = .sequence ∨ g = .allOf) : (group g []).Exact := by
  have hr : (group g []).takes.Recognizes fun _ => False := by
    intro w s
    rcases hg with rfl | rfl <;>
      simp [takes, Taker.group, Taker.sequence, Taker.allOf, Taker.allOfCount]
  refine exact_of_recognizes hr fun u is => ?_
  simp only [false_and, exists_false, iff_false]
  intro h
  cases h with
  | sequence parts hps => exact hps rfl
  | allOf parts hps => exact hps rfl
  | anySubset => simp at hg
  | oneOf => simp at hg

theorem exact_sequence (hps : ps ≠ []) (h : ∀ p ∈ ps, p.Exact) : (group .sequence ps).Exact := by
  have hr : (group .sequence ps).takes.Recognizes fun parts => parts.map Part.child = ps := by
    simpa [takes, Taker.group] using recognizes_sequence hps h
  refine exact_of_recognizes hr fun u is => ?_
  constructor
  · intro hs
    cases hs with | sequence parts _ hc hq => exact ⟨parts, hc, hq, rfl, rfl⟩
  · intro h
    obtain ⟨parts, hc, hq, rfl, rfl⟩ := h
    exact .sequence parts hps hc hq

theorem exact_allOf (hps : ps ≠ []) (h : ∀ p ∈ ps, p.Exact) : (group .allOf ps).Exact := by
  refine exact_of_recognizes (recognizes_allOf hps h) fun u is => ?_
  constructor
  · intro hs
    cases hs with | allOf parts _ hc hq => exact ⟨parts, hc, hq, rfl, rfl⟩
  · intro h
    obtain ⟨parts, hc, hq, rfl, rfl⟩ := h
    exact .allOf parts hps hc hq

theorem exact_anySubset (h : ∀ p ∈ ps, p.Exact) : (group .anySubset ps).Exact := by
  refine exact_of_recognizes (recognizes_anySubset h) fun u is => ?_
  constructor
  · intro hs
    cases hs with | anySubset parts hc hne hq => exact ⟨parts, ⟨hc, hne⟩, hq, rfl, rfl⟩
  · intro h
    obtain ⟨parts, ⟨hc, hne⟩, hq, rfl, rfl⟩ := h
    exact .anySubset parts hc hne hq

theorem exact_oneOf (h : ∀ p ∈ ps, p.Exact) : (group .oneOf ps).Exact := by
  intro w s
  rw [takes, takers_eq, Taker.group, Taker.oneOf, flatMap_map, mem_flatMap]
  constructor
  · intro h
    obtain ⟨p, hp, hs⟩ := h
    obtain ⟨u, hw, hu⟩ := (h p hp w s).1 hs
    exact ⟨u, hw, .oneOf hp hu⟩
  · intro h
    obtain ⟨u, hw, hu⟩ := h
    cases hu with | oneOf hp hu => exact ⟨_, hp, (h _ hp w s).2 ⟨u, hw, hu⟩⟩

theorem exact_group (g : Group) (h : ∀ p ∈ ps, p.Exact) : (group g ps).Exact := by
  cases g with
  | sequence =>
    by_cases hps : ps = []
    · exact hps ▸ exact_childless (.inl rfl)
    · exact exact_sequence hps h
  | allOf =>
    by_cases hps : ps = []
    · exact hps ▸ exact_childless (.inr rfl)
    · exact exact_allOf hps h
  | anySubset => exact exact_anySubset h
  | oneOf => exact exact_oneOf h

theorem exact (p : Pattern) : p.Exact := by
  induction p with
  | literal w => exact exact_literal w
  | wildcard => exact exact_wildcard
  | optional p ih => exact ih.optional
  | group g ps ih => exact exact_group g ih

/-- A view has a match with the items `is` that leaves `r` exactly if its letters are a word
spelled with these items and then `r`. -/
theorem matcher_spells (p : Pattern) (v : Letters) (is : List Item) (r : List Char) :
    (∃ m ∈ (p.matcher v).toList, m.items = is ∧ m.rest.toList = r) ↔
      ∃ u, v.toList = u ++ r ∧ Spells p u is := by
  rw [← exact p v.toList ⟨is, r⟩, ← map_take_matcher, mem_map]
  simp [Match.take]

end Pattern
end Initialism
