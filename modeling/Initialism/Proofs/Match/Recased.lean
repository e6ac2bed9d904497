import Initialism.Proofs.Match.Congruence
import Initialism.Proofs.Match.Leaves
import Initialism.Proofs.Text.SameLetters

/-! Words that differ in case only. Letter by letter the same choices are there, so matches come in
the same order and number, each taking as many letters as its counterpart. It is the same with the
patterns: of their words only the first letters are compared, and their case plays no part. -/
namespace Initialism
open List

section
variable (I : Item → Item → Prop)

structure Take.Alike (s t : Take) : Prop where
  items : Forall₂ I s.items t.items
  rest : Text.SameLetters s.rest t.rest

/-- From words that differ in case only the two take alike, one thing after the other. -/
def Taker.Alike (t u : Taker) : Prop :=
  ∀ v w, Text.SameLetters v w → Forall₂ (Take.Alike I) (t v) (u w)

end

namespace Taker
variable {I : Item → Item → Prop} {s s' t t' : Taker}

theorem alike_literal {v w : String}
    (h : Option.Rel (fun c d => Text.sameLetter c d = true) v.toList.head? w.toList.head?)
    (hi : I (.word v) (.word w)) : (literal v).Alike I (literal w) := by
  intro x y hxy
  cases hxy with
  | nil => exact .nil
  | @cons c d x y hcd hxy =>
    simp only [literal]
    generalize v.toList.head? = i, w.toList.head? = j at h
    cases h with
    | none => exact .nil
    | some hij =>
      simp only [Text.sameLetter_congr hcd hij]
      split
      · exact .cons ⟨.cons hi .nil, hxy⟩ .nil
      · exact .nil

theorem alike_wildcard
    (hi : ∀ c d, Text.sameLetter c d = true → I (.letter c) (.letter d)) :
    wildcard.Alike I wildcard := by
  intro x y hxy
  cases hxy with
  | nil => exact .nil
  | cons hcd hxy => exact .cons ⟨.cons (hi _ _ hcd) .nil, hxy⟩ .nil

theorem Alike.followed (hs : s.Alike I s') (ht : t.Alike I t') :
    (s.followed t).Alike I (s'.followed t') := by
  intro v w hvw
  refine rel_flatMap (hs v w hvw) fun a b hab => ?_
  refine rel_map (fun c d hcd => ?_) (ht a.rest b.rest hab.rest)
  exact ⟨rel_append hab.items hcd.items, hcd.rest⟩

theorem Alike.nonempty (h : s.Alike I s') : s.nonempty.Alike I s'.nonempty := by
  intro v w hvw
  refine rel_filter (fun a b hab => ?_) (h v w hvw)
  simp only [decide_eq_true_eq, hab.rest.length_eq, hvw.length_eq]

theorem congruence_alike : Congruence (Alike I) where
  none := fun _ _ _ => .nil
  skip := fun _ _ hvw => .cons ⟨.nil, hvw⟩ .nil
  append hs ht := fun v w hvw => rel_append (hs v w hvw) (ht v w hvw)
  nonempty := .nonempty
  followed := .followed

end Taker

def Item.Recased : Item → Item → Prop
  | .word v, .word w => v = w
  | .letter c, .letter d => Text.sameLetter c d = true
  | _, _ => False

namespace Pattern

theorem takes_alike (p : Pattern) : p.takes.Alike Item.Recased p.takes := by
  refine p.takes_self Taker.congruence_alike ?_ ?_
  · intro w
    refine Taker.alike_literal ?_ rfl
    cases w.toList.head? with
    | none => exact .none
    | some i => exact .some (Text.sameLetter_refl i)
  · exact Taker.alike_wildcard fun _ _ h => h

theorem length_spellings_eq (p : Pattern) {v w : Letters}
    (h : Text.SameLetters v.toList w.toList) :
    (p.spellings v).toList.length = (p.spellings w).toList.length := by
  have hr (a b : Take) (hab : a.Alike Item.Recased b) : a.isComplete = true ↔ b.isComplete = true := by
    rw [Take.isComplete, Take.isComplete, List.isEmpty_iff, List.isEmpty_iff, ← length_eq_zero_iff,
      hab.rest.length_eq, length_eq_zero_iff]
  rw [length_spellings, length_spellings, countP_eq_length_filter, countP_eq_length_filter]
  exact (rel_filter hr (p.takes_alike _ _ h)).length_eq

end Pattern

def Text.SameInitial (v w : String) : Prop :=
  Option.Rel (fun c d => sameLetter c d = true) v.toList.head? w.toList.head?

inductive Item.Pairs (ws : List (String × String)) (c d : Char) : Item → Item → Prop where
  | word {x y : String} (h : (x, y) ∈ ws) : Pairs ws c d (.word x) (.word y)
  | letter : Pairs ws c d (.letter c) (.letter d)

/-- The match `m` on `v` and the match `n` on `w` leave equally much and have the same shape: place
by place two words that are paired in `ws`, or the letters that stand there. -/
structure Match.Mirrors (ws : List (String × String)) (v w : List Char) (m n : Match) : Prop where
  rest : m.rest.length = n.rest.length
  length : m.items.length = n.items.length
  items : ∀ (k : Nat) (i j : Item), m.items[k]? = some i → n.items[k]? = some j →
    ∃ c d, v[k]? = some c ∧ w[k]? = some d ∧ Item.Pairs ws c d i j

theorem forall₂_getElem? {α : Type u} {β : Type v} {R : α → β → Prop} {l : List α} {l' : List β}
    (h : Forall₂ R l l') {k : Nat} {a : α} (ha : l[k]? = some a) : ∃ b, l'[k]? = some b ∧ R a b := by
  induction h generalizing k with
  | nil => cases ha
  | @cons x y l l' hxy _ ih =>
    cases k with
    | zero =>
      obtain rfl : x = a := by simpa using ha
      exact ⟨y, rfl, hxy⟩
    | succ k => simpa using ih (by simpa using ha)

theorem Item.Pairs.of_takes {ws : List (String × String)} {c d c' d' : Char} {i j : Item}
    (h : Pairs ws c' d' i j) (hi : i.Takes c) (hj : j.Takes d) : Pairs ws c d i j := by
  cases h with
  | word h => exact .word h
  | letter =>
    obtain rfl : c' = c := hi
    obtain rfl : d' = d := hj
    exact .letter

theorem Match.Consumes.getElem? {m : Match} {p : Pattern} {w : List Char} (h : m.Consumes p w) {k : Nat}
    {i : Item} (hi : m.items[k]? = some i) : ∃ c, w[k]? = some c ∧ i.Takes c := by
  obtain ⟨c, hc, ht⟩ := forall₂_getElem? h.takes hi
  refine ⟨c, ?_, ht⟩
  rw [getElem?_take] at hc
  split at hc
  · exact hc
  · cases hc

theorem Match.Consumes.mirrors {p q : Pattern} {v w : List Char} {m n : Match}
    {ws : List (String × String)} (hm : m.Consumes p v) (hn : n.Consumes q w)
    (h : m.take.Alike (fun i j => ∃ c d, Item.Pairs ws c d i j) n.take) : m.Mirrors ws v w n := by
  refine ⟨?_, h.items.length_eq, ?_⟩
  · rw [← Letters.length_toList, ← Letters.length_toList]
    exact h.rest.length_eq
  · intro k i j hi hj
    obtain ⟨c, hc, hic⟩ := hm.getElem? hi
    obtain ⟨d, hd, hjd⟩ := hn.getElem? hj
    obtain ⟨j', hj', c', d', hp⟩ := forall₂_getElem? h.items hi
    obtain rfl : j' = j := Option.some.inj (hj'.symm.trans hj)
    exact ⟨c, d, hc, hd, hp.of_takes hic hjd⟩

namespace Pattern

@[simp] theorem words_group (g : Group) (ps : List Pattern) : (group g ps).words = ps.flatMap words := by
  rw [words, leaves_group, filterMap_flatMap]
  rfl

/-- The patterns have the same shape, and words at the same place in them are related by `S` and
stand at the same place in the lists of their words. -/
def Paired (S : String → String → Prop) (p q : Pattern) : Prop :=
  p.words.length = q.words.length ∧
    p.Parallel (fun x y => S x y ∧ (x, y) ∈ p.words.zip q.words) q

variable {S : String → String → Prop} {p q : Pattern} {v w : Letters}

theorem paired_group (g : Group) {ps qs : List Pattern} (h : Forall₂ (Paired S) ps qs) :
    (group g ps).Paired S (group g qs) := by
  have hz : (ps.flatMap words).length = (qs.flatMap words).length ∧ Forall₂ (Parallel fun x y =>
      S x y ∧ (x, y) ∈ (ps.flatMap words).zip (qs.flatMap words)) ps qs := by
    induction h with
    | nil => exact ⟨rfl, .nil⟩
    | cons hp _ ih =>
      obtain ⟨hl, hz⟩ := hp
      rw [flatMap_cons, flatMap_cons, length_append, length_append, hl, ih.1, zip_append hl]
      refine ⟨rfl, .cons (hz.imp ?_) (ih.2.imp fun _ _ hq => hq.imp ?_)⟩
      · intro x y hxy
        exact ⟨hxy.1, mem_append_left _ hxy.2⟩
      · intro x y hxy
        exact ⟨hxy.1, mem_append_right _ hxy.2⟩
  rw [Paired, words_group, words_group]
  exact ⟨hz.1, .group g hz.2⟩

theorem Parallel.paired (h : p.Parallel S q) : p.Paired S q := by
  refine h.induction (P := Paired S) ?_ ⟨rfl, .wildcard⟩ ?_ ?_
  · intro v w h
    exact ⟨rfl, .literal ⟨h, mem_singleton_self _⟩⟩
  · intro p q ih
    exact ⟨ih.1, .optional ih.2⟩
  · intro g ps qs ih
    exact paired_group g ih

theorem Parallel.takes_alike (h : p.Parallel Text.SameInitial q) :
    p.takes.Alike (fun i j => ∃ c d, Item.Pairs (p.words.zip q.words) c d i j) q.takes := by
  refine h.paired.2.takes Taker.congruence_alike ?_ ?_
  · intro x y hxy
    exact Taker.alike_literal hxy.1 ⟨'a', 'a', .word hxy.2⟩
  · exact Taker.alike_wildcard fun c d _ => ⟨c, d, .letter⟩

/-- Matching is blind to case. On words that differ in case only, patterns of one shape whose words
have the same first letters up to case have equally many matches, and each match mirrors the one at
its place. -/
theorem matcher_mirrors (hp : p.Parallel Text.SameInitial q)
    (hv : Text.SameLetters v.toList w.toList) :
    Forall₂ (Match.Mirrors (p.words.zip q.words) v.toList w.toList) (p.matcher v).toList
      (q.matcher w).toList := by
  have ha := hp.takes_alike v.toList w.toList hv
  rw [← map_take_matcher, ← map_take_matcher, forall₂_map_left_iff, forall₂_map_right_iff,
    forall₂_iff_zip] at ha
  refine forall₂_iff_zip.2 ⟨ha.1, ?_⟩
  intro m n hmn
  obtain ⟨hm, hn⟩ := of_mem_zip hmn
  exact (consumes_of_mem_matcher hm).mirrors (consumes_of_mem_matcher hn) (ha.2 hmn)

theorem matcher_mirrors_axe :
    let p := group .sequence [literal "an", optional (group .oneOf [literal "δ", wildcard])]
    let q := group .sequence [literal "Axe", optional (group .oneOf [literal "Δot", wildcard])]
    let v := Letters.ofString "aδ"
    let w := Letters.ofString "AΔ"
    p.Parallel Text.SameInitial q ∧ Text.SameLetters v.toList w.toList ∧
      Forall₂ (Match.Mirrors [("an", "Axe"), ("δ", "Δot")] ['a', 'δ'] ['A', 'Δ'])
        (p.matcher v).toList (q.matcher w).toList ∧
      (q.matcher w).toList.map Match.take = [⟨[.word "Axe"], ['Δ']⟩,
        ⟨[.word "Axe", .word "Δot"], []⟩, ⟨[.word "Axe", .letter 'Δ'], []⟩] := by
  intro p q v w
  have ha : Text.sameLetter 'a' 'A' = true := by decide
  have hd : Text.sameLetter 'δ' 'Δ' = true := by decide
  have hg : (group .oneOf [literal "δ", wildcard]).Parallel Text.SameInitial
      (group .oneOf [literal "Δot", wildcard]) :=
    .group _ (.cons (.literal (.some hd)) (.cons .wildcard .nil))
  have hp : p.Parallel Text.SameInitial q :=
    .group _ (.cons (.literal (.some ha)) (.cons (.optional hg) .nil))
  have hv : Text.SameLetters v.toList w.toList := .cons ha (.cons hd .nil)
  exact ⟨hp, hv, matcher_mirrors hp hv, by decide⟩

end Pattern
end Initialism
