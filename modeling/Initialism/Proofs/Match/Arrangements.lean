import Mathlib.Algebra.BigOperators.Group.Finset.Basic
import Mathlib.Data.Nat.Factorial.BigOperators
import Initialism.Proofs.Match.Lengths

/-! How often words are arranged. Where all children of an unordered group are words, or all are
wildcards, each letter is given to a child of its own, and the matches of a whole word are counted
by the ways to do so. Words are told apart by their first letters only, so their number is a product
of falling factorials, one for each letter of the word up to case. -/
namespace Initialism
open List

namespace Text

/-- The letters up to case. Two are in the same class if and only if they are the same letter, by
`sameLetter_iff`. -/
def classes (cs : List Char) : List (List Char) := cs.map lower

def initials (ws : List String) : List Char := ws.filterMap fun w => w.toList.head?

theorem count_classes (c : Char) (cs : List Char) :
    (classes cs).count (lower c) = cs.countP (sameLetter c) := by
  rw [classes, count, countP_map]
  refine countP_congr fun d _ => ?_
  rw [Function.comp_apply, beq_iff_eq, sameLetter_iff, eq_comm]

theorem classes_initials (ws : List String) :
    classes (initials ws) = ws.filterMap fun x => x.toList.head?.map lower := map_filterMap

theorem length_classes_initials {ws : List String} (h : "" ∉ ws) :
    (classes (initials ws)).length = ws.length := by
  rw [classes_initials, filterMap_length_eq_length]
  intro x hx
  cases hi : x.toList with
  | nil => exact absurd (String.toList_eq_nil_iff.1 hi ▸ hx) h
  | cons c cs => rfl

end Text

/-- The number of ways to pick for each letter of `l` one of the same class from `k`, none of them
twice. -/
def picks (k l : List (List Char)) : Nat :=
  ∏ a ∈ l.toFinset, (k.count a).descFactorial (l.count a)

section Picks
variable {k l : List (List Char)}

theorem picks_perm {k' : List (List Char)} (h : k ~ k') (l : List (List Char)) :
    picks k l = picks k' l := by
  simp only [picks, h.count_eq]

theorem prod_descFactorial_eq_picks (k : List (List Char)) {s : Finset (List Char)}
    (h : l.toFinset ⊆ s) :
    ∏ a ∈ s, (k.count a).descFactorial (l.count a) = picks k l := by
  symm
  apply Finset.prod_subset h
  intro a _ ha
  have hc : l.count a = 0 := count_eq_zero.2 (mt mem_toFinset.2 ha)
  rw [hc, Nat.descFactorial_zero]

theorem picks_cons (k : List (List Char)) (a : List Char) (l : List (List Char)) :
    picks k (a :: l) = k.count a * picks (k.erase a) l := by
  have ha : a ∈ (a :: l).toFinset := by simp
  have hl : l.toFinset ⊆ (a :: l).toFinset := by simp
  -- Only the factor of `a` changes. It loses its first part, the number of ways to pick one `a`.
  have hd : (k.count a).descFactorial ((a :: l).count a) =
      k.count a * ((k.erase a).count a).descFactorial (l.count a) := by
    rw [count_cons_self, count_erase_self]
    cases k.count a with
    | zero => rw [Nat.zero_descFactorial_succ, Nat.zero_mul]
    | succ n => exact Nat.succ_descFactorial_succ n _
  have he : ∏ b ∈ (a :: l).toFinset.erase a, (k.count b).descFactorial ((a :: l).count b) =
      ∏ b ∈ (a :: l).toFinset.erase a, ((k.erase a).count b).descFactorial (l.count b) := by
    refine Finset.prod_congr rfl fun b hb => ?_
    have hb : b ≠ a := (Finset.mem_erase.1 hb).1
    rw [count_cons_of_ne hb.symm, count_erase_of_ne hb]
  rw [← prod_descFactorial_eq_picks (k.erase a) hl, picks, ← Finset.mul_prod_erase _ _ ha,
    ← Finset.mul_prod_erase (a :: l).toFinset _ ha, hd, he, Nat.mul_assoc]

theorem picks_eq_zero {a : List Char} (h : k.count a < l.count a) : picks k l = 0 := by
  have ha : a ∈ l.toFinset := mem_toFinset.2 (count_pos_iff.1 (by omega))
  exact Finset.prod_eq_zero ha (Nat.descFactorial_eq_zero_iff_lt.2 h)

theorem picks_of_count_eq (h : ∀ a, k.count a = l.count a) :
    picks k l = ∏ a ∈ l.toFinset, (k.count a).factorial := by
  simp only [picks, ← h, Nat.descFactorial_self]

theorem picks_eq_zero_of_length_eq (hl : k.length = l.length) (h : ¬ ∀ a, k.count a = l.count a) :
    picks k l = 0 := by
  by_contra hp
  have hc (a : List Char) : l.count a ≤ k.count a := Nat.not_lt.1 fun ha => hp (picks_eq_zero ha)
  have hs : l <+~ k := subperm_ext_iff.2 fun a _ => hc a
  exact h fun a => ((hs.perm_of_length_le hl.le).count_eq a).symm

end Picks

namespace Pattern

def accepts : Pattern → Char → Bool
  | literal x, c => x.toList.head?.any (Text.sameLetter c)
  | wildcard, _ => true
  | optional _, _ | group _ _, _ => false

/-- The number of ways to give each letter a leaf of its own that takes it. -/
def arrangements : List Pattern → List Char → Nat
  | _, [] => 1
  | ps, c :: w => ((withOthers ps).map fun s => if s.1.accepts c then arrangements s.2 w else 0).sum

variable {p : Pattern} {ps : List Pattern} {c : Char} {w : List Char}

theorem sum_map_ite_const {α : Type u} (P : α → Bool) (n : Nat) (l : List α) :
    (l.map fun a => if P a then n else 0).sum = l.countP P * n := by
  induction l with
  | nil => simp
  | cons a l ih =>
    cases ha : P a with
    | true => simp [ih, ha, Nat.add_mul, Nat.add_comm]
    | false => simp [ih, ha]

/-- If the ways for the letters that follow are equally many, whichever child takes the first one,
they are counted once for each child that takes it. -/
theorem arrangements_cons {n : Nat}
    (h : ∀ s ∈ withOthers ps, s.1.accepts c = true → arrangements s.2 w = n) :
    arrangements ps (c :: w) = (ps.countP fun p => p.accepts c) * n := by
  have hs : ((withOthers ps).map fun s => if s.1.accepts c then arrangements s.2 w else 0) =
      (withOthers ps).map fun s => if s.1.accepts c then n else 0 := by
    refine map_congr_left fun s hs => ?_
    split
    · next ha => exact h s hs ha
    · rfl
  have hc : (withOthers ps).countP (fun s => s.1.accepts c) = ps.countP fun p => p.accepts c := by
    have hf : (fun s : Pattern × List Pattern => s.1.accepts c) = (fun p => p.accepts c) ∘ Prod.fst :=
      rfl
    rw [hf, ← countP_map, map_fst_withOthers]
  rw [arrangements, hs, ← hc]
  exact sum_map_ite_const (fun s => s.1.accepts c) n (withOthers ps)

theorem takes_nil_of_isLeaf (hp : p.isLeaf) : p.takes [] = [] := by
  cases p with
  | literal x => rfl
  | wildcard => rfl
  | optional p => cases hp
  | group g ps => cases hp

theorem takes_cons_of_isLeaf (hp : p.isLeaf) (c : Char) (w : List Char) :
    ∃ i, p.takes (c :: w) = if p.accepts c then [⟨[i], w⟩] else [] := by
  cases p with
  | literal x =>
    refine ⟨.word x, ?_⟩
    cases hi : x.toList.head? with
    | none => simp [takes, Taker.literal, accepts, hi]
    | some i => simp [takes, Taker.literal, accepts, hi]
  | wildcard => exact ⟨.letter c, rfl⟩
  | optional p => cases hp
  | group g ps => cases hp

theorem nonempty_of_isLeaf (hp : p.isLeaf) : p.takes.nonempty = p.takes := by
  funext w
  cases w with
  | nil => rw [Taker.nonempty_nil, takes_nil_of_isLeaf hp]
  | cons c w =>
    obtain ⟨i, hi⟩ := takes_cons_of_isLeaf hp c w
    rw [Taker.nonempty, hi]
    split <;> simp

theorem countP_followed_of_isLeaf (hp : p.isLeaf) (next : Taker) (c : Char) (w : List Char) :
    (p.takes.followed next (c :: w)).countP Take.isComplete =
      if p.accepts c then (next w).countP Take.isComplete else 0 := by
  obtain ⟨i, hi⟩ := takes_cons_of_isLeaf hp c w
  rw [Taker.followed, hi]
  split
  · rw [flatMap_singleton, countP_map]
    rfl
  · rfl

theorem countP_flatMap_followed (hps : ∀ p ∈ ps, p.isLeaf) (next : List Pattern → Taker) (c : Char)
    (w : List Char) : ((withOthers ps).flatMap fun s =>
      s.1.takes.followed (next s.2) (c :: w)).countP Take.isComplete =
        ((withOthers ps).map fun s =>
          if s.1.accepts c then (next s.2 w).countP Take.isComplete else 0).sum := by
  rw [countP_flatMap]
  refine congrArg _ (map_congr_left fun s hs => ?_)
  exact countP_followed_of_isLeaf (hps s.1 (mem_of_mem_withOthers hs).1) (next s.2) c w

theorem flatMap_followed_nil (hps : ∀ p ∈ ps, p.isLeaf) (next : List Pattern → Taker) :
    ((withOthers ps).flatMap fun s => s.1.takes.followed (next s.2) []) = [] := by
  refine flatMap_eq_nil_iff.2 fun s hs => ?_
  rw [Taker.followed, takes_nil_of_isLeaf (hps s.1 (mem_of_mem_withOthers hs).1), flatMap_nil]

theorem takes_anySubset_of_isLeaf (hps : ∀ p ∈ ps, p.isLeaf) (w : List Char) :
    (group .anySubset ps).takes w = .skip w :: (withOthers ps).flatMap fun s =>
      s.1.takes.followed (group .anySubset s.2).takes w := by
  rw [takes_anySubset]
  refine congrArg _ (flatMap_congr fun s hs => ?_)
  rw [nonempty_of_isLeaf (hps s.1 (mem_of_mem_withOthers hs).1)]

theorem countP_takes_anySubset (hps : ∀ p ∈ ps, p.isLeaf) (w : List Char) :
    ((group .anySubset ps).takes w).countP Take.isComplete = arrangements ps w := by
  induction w generalizing ps with
  | nil =>
    rw [takes_anySubset_of_isLeaf hps,
      flatMap_followed_nil hps fun ps => (group .anySubset ps).takes]
    rfl
  | cons c w ih =>
    -- Using none of the children leaves letters, so each way starts with a child that takes `c`.
    have hc : ¬ (Take.skip (c :: w)).isComplete = true := Bool.false_ne_true
    rw [takes_anySubset_of_isLeaf hps, countP_cons_of_neg hc,
      countP_flatMap_followed hps fun ps => (group .anySubset ps).takes, arrangements]
    refine congrArg _ (map_congr_left fun s hs => ?_)
    rw [ih fun q hq => hps q ((mem_of_mem_withOthers hs).2 q hq)]

theorem countP_takes_singleton (hp : p.isLeaf) (c : Char) :
    (p.takes [c]).countP Take.isComplete = arrangements [p] [c] := by
  obtain ⟨i, hi⟩ := takes_cons_of_isLeaf hp c []
  rw [hi]
  cases ha : p.accepts c with
  | true => simp [arrangements, withOthers, ha, Take.isComplete]
  | false => simp [arrangements, withOthers, ha]

theorem countP_takes_allOf (hps : ∀ p ∈ ps, p.isLeaf) (hne : ps ≠ []) (hl : ps.length = w.length) :
    ((group .allOf ps).takes w).countP Take.isComplete = arrangements ps w := by
  induction w generalizing ps with
  | nil => exact absurd (length_eq_zero_iff.1 hl) hne
  | cons c w ih =>
    -- The last letter is for the last child, which the group takes as it is.
    by_cases hw : w = []
    · subst hw
      obtain ⟨p, rfl⟩ := length_eq_one_iff.1 hl
      exact countP_takes_singleton (hps p mem_cons_self) c
    · have hw : 0 < w.length := length_pos_iff.2 hw
      rw [length_cons] at hl
      rw [takes_allOf (by omega), countP_flatMap_followed hps fun ps => (group .allOf ps).takes,
        arrangements]
      refine congrArg _ (map_congr_left fun s hs => ?_)
      have hls := length_of_mem_withOthers hs
      have hne : s.2 ≠ [] := by
        rw [← length_pos_iff]
        omega
      rw [ih (fun q hq => hps q ((mem_of_mem_withOthers hs).2 q hq)) hne (by omega)]

theorem lengths_of_isLeaf (hp : p.isLeaf) : p.minLength = 1 ∧ p.maxLength = 1 := by
  cases p with
  | literal x => exact ⟨rfl, rfl⟩
  | wildcard => exact ⟨rfl, rfl⟩
  | optional p => cases hp
  | group g ps => cases hp

theorem fits_allOf_iff (hps : ∀ p ∈ ps, p.isLeaf) (n : Nat) :
    (group .allOf ps).Fits n ↔ n = ps.length := by
  have hmin : ps.map minLength = replicate ps.length 1 :=
    map_eq_replicate_iff.2 fun p hp => (lengths_of_isLeaf (hps p hp)).1
  have hmax : ps.map maxLength = replicate ps.length 1 :=
    map_eq_replicate_iff.2 fun p hp => (lengths_of_isLeaf (hps p hp)).2
  rw [Fits, minLength, maxLength, minLengths_eq, maxLengths_eq, total_eq_sum, total_eq_sum, hmin,
    hmax, sum_replicate_nat, Nat.mul_one]
  omega

theorem accepts_literal_iff {x : String} :
    (literal x).accepts c = true ↔ x.toList.head?.map Text.lower = some (Text.lower c) := by
  rw [accepts]
  cases x.toList.head? with
  | none => simp
  | some i =>
    rw [Option.any_some, Text.sameLetter_iff, Option.map_some, Option.some_inj]
    exact eq_comm

theorem countP_accepts_literals (ws : List String) (c : Char) :
    (ws.map literal).countP (fun p => p.accepts c) =
      (Text.classes (Text.initials ws)).count (Text.lower c) := by
  rw [Text.count_classes, Text.initials, countP_filterMap, countP_map]
  congr 1
  funext x
  rw [Function.comp_apply, accepts]
  cases x.toList.head? <;> rfl

theorem classes_initials_perm_erase {ws : List String} {s : String × List String}
    (hs : s ∈ withOthers ws) (ha : (literal s.1).accepts c = true) :
    Text.classes (Text.initials s.2) ~ (Text.classes (Text.initials ws)).erase (Text.lower c) := by
  have hp := (perm_of_mem_withOthers hs).filterMap fun x => x.toList.head?.map Text.lower
  rw [filterMap_cons, accepts_literal_iff.1 ha] at hp
  rw [Text.classes_initials, Text.classes_initials]
  exact (cons_perm_iff_perm_erase.1 hp).2

theorem arrangements_literals (ws : List String) (w : List Char) :
    arrangements (ws.map literal) w = picks (Text.classes (Text.initials ws)) (Text.classes w) := by
  induction w generalizing ws with
  | nil => rfl
  | cons c w ih =>
    have hs (s) (hs : s ∈ withOthers (ws.map literal)) (ha : s.1.accepts c = true) :
        arrangements s.2 w =
          picks ((Text.classes (Text.initials ws)).erase (Text.lower c)) (Text.classes w) := by
      rw [withOthers_map] at hs
      obtain ⟨t, ht, rfl⟩ := mem_map.1 hs
      rw [ih]
      exact picks_perm (classes_initials_perm_erase ht ha) _
    rw [arrangements_cons hs, countP_accepts_literals]
    exact (picks_cons _ _ (Text.classes w)).symm

theorem arrangements_wildcards (n : Nat) (w : List Char) :
    arrangements (replicate n wildcard) w = n.descFactorial w.length := by
  induction w generalizing n with
  | nil => rfl
  | cons c w ih =>
    have hs (s) (hs : s ∈ withOthers (replicate n wildcard)) (_ : s.1.accepts c = true) :
        arrangements s.2 w = (n - 1).descFactorial w.length := by
      have hl := length_of_mem_withOthers hs
      rw [length_replicate] at hl
      have hr : s.2 = replicate (n - 1) wildcard := by
        refine eq_replicate_iff.2 ⟨by omega, fun q hq => ?_⟩
        exact eq_of_mem_replicate ((mem_of_mem_withOthers hs).2 q hq)
      rw [hr, ih]
    rw [arrangements_cons hs, countP_replicate, if_pos (by rfl), length_cons]
    cases n with
    | zero => rw [Nat.zero_mul, Nat.zero_descFactorial_succ]
    | succ n => exact (Nat.succ_descFactorial_succ n w.length).symm

theorem length_spellings_anySubset (hps : ∀ p ∈ ps, p.isLeaf) (v : Letters) :
    ((group .anySubset ps).spellings v).toList.length = arrangements ps v.toList := by
  rw [length_spellings, countP_takes_anySubset hps]

theorem length_spellings_allOf (hps : ∀ p ∈ ps, p.isLeaf) (hne : ps ≠ []) (v : Letters) :
    ((group .allOf ps).spellings v).toList.length =
      if v.length = ps.length then arrangements ps v.toList else 0 := by
  split
  · next hl =>
    rw [← Letters.length_toList] at hl
    rw [length_spellings, countP_takes_allOf hps hne hl.symm]
  · next hl =>
    rw [spellings_eq_nil fun hf => hl ((fits_allOf_iff hps _).1 hf)]
    rfl

theorem isLeaf_of_mem_literals (ws : List String) : ∀ p ∈ ws.map literal, p.isLeaf := by
  intro p hp
  obtain ⟨x, -, rfl⟩ := mem_map.1 hp
  rfl

theorem isLeaf_of_mem_wildcards (n : Nat) : ∀ p ∈ replicate n wildcard, p.isLeaf := by
  intro p hp
  rw [eq_of_mem_replicate hp]
  rfl

theorem length_spellings_literals (ws : List String) (v : Letters) :
    ((group .anySubset (ws.map literal)).spellings v).toList.length =
      picks (Text.classes (Text.initials ws)) (Text.classes v.toList) := by
  rw [length_spellings_anySubset (isLeaf_of_mem_literals ws), arrangements_literals]

theorem length_spellings_all_literals {ws : List String} (hne : ws ≠ []) (v : Letters) :
    ((group .allOf (ws.map literal)).spellings v).toList.length =
      if v.length = ws.length then
        picks (Text.classes (Text.initials ws)) (Text.classes v.toList) else 0 := by
  have hn : ws.map literal ≠ [] := mt map_eq_nil_iff.1 hne
  rw [length_spellings_allOf (isLeaf_of_mem_literals ws) hn, arrangements_literals, length_map]

theorem length_spellings_wildcards (n : Nat) (v : Letters) :
    ((group .anySubset (replicate n wildcard)).spellings v).toList.length =
      if v.length ≤ n then n.factorial / (n - v.length).factorial else 0 := by
  rw [length_spellings_anySubset (isLeaf_of_mem_wildcards n), arrangements_wildcards,
    Letters.length_toList]
  split
  · next h => exact Nat.descFactorial_eq_div h
  · next h => exact Nat.descFactorial_eq_zero_iff_lt.2 (Nat.not_le.1 h)

theorem length_spellings_all_wildcards {n : Nat} (hn : 0 < n) (v : Letters) :
    ((group .allOf (replicate n wildcard)).spellings v).toList.length =
      if v.length = n then n.factorial else 0 := by
  have hne : replicate n wildcard ≠ [] := mt (replicate_eq_nil_iff _).1 hn.ne'
  rw [length_spellings_allOf (isLeaf_of_mem_wildcards n) hne, arrangements_wildcards,
    length_replicate, Letters.length_toList]
  split
  · next h => rw [h, Nat.descFactorial_self]
  · rfl

/-- How many ways there are to spell a view with leaves. Let `m` words and `k` letters of the view
be in a class. Any of the words spell it in as many ways as the product of `m * (m-1) * …`, with
`k` factors for each class of its letters; all of the words spell it only if these numbers agree,
and then each class is put in any order. Wildcards are not told apart. -/
theorem length_spellings_leaves (ws : List String) (n : Nat) (v : Letters) :
    let m := fun a => (Text.classes (Text.initials ws)).count a
    let k := fun a => (Text.classes v.toList).count a
    let as := (Text.classes v.toList).toFinset
    ((group .anySubset (ws.map literal)).spellings v).toList.length =
        ∏ a ∈ as, (m a).descFactorial (k a) ∧
      (ws ≠ [] → "" ∉ ws →
        ((∀ a, k a = m a) → ((group .allOf (ws.map literal)).spellings v).toList.length =
          ∏ a ∈ as, (m a).factorial) ∧
        (¬ (∀ a, k a = m a) → ((group .allOf (ws.map literal)).spellings v).toList.length = 0)) ∧
      (0 < n →
        ((group .anySubset (replicate n wildcard)).spellings v).toList.length =
          (if v.length ≤ n then n.factorial / (n - v.length).factorial else 0) ∧
        ((group .allOf (replicate n wildcard)).spellings v).toList.length =
          if v.length = n then n.factorial else 0) := by
  intro m k as
  refine ⟨length_spellings_literals ws v, ?_, ?_⟩
  · intro hne hws
    have hm := Text.length_classes_initials hws
    have hk : (Text.classes v.toList).length = v.length := by
      rw [Text.classes, length_map, Letters.length_toList]
    rw [length_spellings_all_literals hne]
    constructor
    · intro h
      have hl := (perm_iff_count.2 h).length_eq
      rw [if_pos (hk ▸ hm ▸ hl)]
      exact picks_of_count_eq fun a => (h a).symm
    · intro h
      split
      · next hl =>
        exact picks_eq_zero_of_length_eq (by omega) fun hc => h fun a => (hc a).symm
      · rfl
  · intro hn
    exact ⟨length_spellings_wildcards n v, length_spellings_all_wildcards hn v⟩

theorem length_spellings_leaves_aab :
    let ws := ["an", "Axe", "bee"]
    let m := fun a => (Text.classes (Text.initials ws)).count a
    let k := fun (v : Letters) a => (Text.classes v.toList).count a
    let all := fun v => ((group .allOf (ws.map literal)).spellings v).toList.length
    let dots := fun v => ((group .allOf (replicate 3 wildcard)).spellings v).toList.length
    let v := Letters.ofString "aAb"
    let w := Letters.ofString "bba"
    ws ≠ [] ∧ "" ∉ ws ∧ (∀ a, k v a = m a) ∧ ¬ (∀ a, k w a = m a) ∧ 0 < 3 ∧
      all v = (m ['a']).factorial * (m ['b']).factorial ∧ all v = 2 ∧ all w = 0 ∧ dots w = 6 := by
  intro ws m k all dots v w
  have hne : ws ≠ [] := by decide
  have hws : "" ∉ ws := by decide
  have hv : ∀ a, k v a = m a := perm_iff_count.1 (by decide)
  have hw : ¬ ∀ a, k w a = m a := fun h => absurd (h ['b']) (by decide)
  have hn : 0 < 3 := by decide
  obtain ⟨-, ha, -⟩ := length_spellings_leaves ws 3 v
  obtain ⟨-, hb, hd⟩ := length_spellings_leaves ws 3 w
  have hp : all v = (m ['a']).factorial * (m ['b']).factorial := (ha hne hws).1 hv
  exact ⟨hne, hws, hv, hw, hn, hp, by decide, (hb hne hws).2 hw, (hd hn).2⟩

end Pattern
end Initialism
