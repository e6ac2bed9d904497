import Mathlib.Data.List.Forall2
import Mathlib.Data.List.Perm.Subperm
import Initialism.Match.Search

/-! Matching on plain lists. A view is read as the letters it still holds, and a matcher as the list
of what it takes from them. `lists_matcher` says that nothing else about a view ever matters, so all
that follows about matches is proved on lists. -/
namespace Initialism

structure Take where
  items : List Item
  rest : List Char
deriving DecidableEq, Repr

namespace Take

def skip (w : List Char) : Take := ⟨[], w⟩
def andThen (s t : Take) : Take := ⟨s.items ++ t.items, t.rest⟩
def isComplete (s : Take) : Bool := s.rest.isEmpty

@[simp] theorem items_andThen (s t : Take) : (s.andThen t).items = s.items ++ t.items := rfl
@[simp] theorem rest_andThen (s t : Take) : (s.andThen t).rest = t.rest := rfl

end Take

def Match.take (m : Match) : Take := ⟨m.items, m.rest.toList⟩

@[simp] theorem Match.take_skip (v : Letters) : (Match.skip v).take = .skip v.toList := rfl

@[simp] theorem Match.take_andThen (m n : Match) : (m.andThen n).take = m.take.andThen n.take := rfl

theorem forall₂_flatMap_same {α : Type u} {β : Type v} {γ : Type w} {R : β → γ → Prop} {l : List α}
    {f : α → List β} {g : α → List γ} (h : ∀ a ∈ l, List.Forall₂ R (f a) (g a)) :
    List.Forall₂ R (l.flatMap f) (l.flatMap g) := by
  have hl : List.Forall₂ (fun a b => List.Forall₂ R (f a) (g b)) l l := List.forall₂_same.2 h
  exact List.rel_flatMap hl fun _ _ hab => hab

theorem flatMap_filter_of_eq_nil {α : Type u} {β : Type v} {l : List α} {P : α → Bool} {f : α → List β}
    (h : ∀ a ∈ l, P a = false → f a = []) : (l.filter P).flatMap f = l.flatMap f := by
  induction l with
  | nil => rfl
  | cons a l ih =>
    obtain ⟨ha, hl⟩ := List.forall_mem_cons.1 h
    cases hp : P a with
    | true => rw [List.filter_cons_of_pos hp, List.flatMap_cons, List.flatMap_cons, ih hl]
    | false =>
      rw [List.filter_cons_of_neg (by simp [hp]), ih hl, List.flatMap_cons, ha hp, List.nil_append]

def withOthers {α : Type u} : List α → List (α × List α)
  | [] => []
  | a :: l => (a, l) :: (withOthers l).map fun s => (s.1, a :: s.2)

section WithOthers
open List
variable {α : Type u} {β : Type v}

theorem toList_selections (l : List α) :
    ((selections l).toList.map fun s => (s.element, s.others)) = withOthers l := by
  induction l with
  | nil => rfl
  | cons a l ih =>
    rw [toList_selections_cons, withOthers, ← ih, List.map_map]
    rfl

theorem withOthers_map (f : α → β) (l : List α) :
    withOthers (l.map f) = (withOthers l).map fun s => (f s.1, s.2.map f) := by
  induction l with
  | nil => rfl
  | cons a l ih => simp [withOthers, ih]

theorem map_fst_withOthers (l : List α) : (withOthers l).map Prod.fst = l := by
  induction l with
  | nil => rfl
  | cons a l ih =>
    rw [withOthers, map_cons, map_map]
    exact congrArg (a :: ·) ih

theorem sublist_of_mem_withOthers {l : List α} {s : α × List α} (h : s ∈ withOthers l) :
    s.2 <+ l := by
  induction l generalizing s with
  | nil => cases h
  | cons a l ih =>
    cases mem_cons.1 h with
    | inl h =>
      subst h
      exact sublist_cons_self a l
    | inr h =>
      obtain ⟨t, ht, rfl⟩ := mem_map.1 h
      exact (ih ht).cons_cons a

theorem perm_of_mem_withOthers {l : List α} {s : α × List α} (h : s ∈ withOthers l) :
    (s.1 :: s.2).Perm l := by
  induction l generalizing s with
  | nil => cases h
  | cons b l ih =>
    obtain rfl | hm := List.mem_cons.1 h
    · exact .refl _
    · obtain ⟨q, hq, rfl⟩ := List.mem_map.1 hm
      calc
        q.1 :: b :: q.2 ~ b :: q.1 :: q.2 := .swap ..
        _ ~ b :: l := (ih hq).cons b

theorem exists_mem_withOthers {l : List α} {a : α} (h : a ∈ l) : ∃ o, (a, o) ∈ withOthers l := by
  induction l with
  | nil => simp at h
  | cons b l ih =>
    rcases List.mem_cons.1 h with rfl | h
    · exact ⟨l, by simp [withOthers]⟩
    · obtain ⟨o, ho⟩ := ih h
      refine ⟨b :: o, ?_⟩
      rw [withOthers, List.mem_cons, List.mem_map]
      exact .inr ⟨(a, o), ho, rfl⟩

theorem length_of_mem_withOthers {l : List α} {s : α × List α} (h : s ∈ withOthers l) :
    s.2.length + 1 = l.length :=
  (perm_of_mem_withOthers h).length_eq

theorem mem_of_mem_withOthers {l : List α} {s : α × List α} (h : s ∈ withOthers l) :
    s.1 ∈ l ∧ ∀ b ∈ s.2, b ∈ l := by
  have hp := perm_of_mem_withOthers h
  exact ⟨hp.mem_iff.1 (by simp), fun b hb => hp.mem_iff.1 (by simp [hb])⟩

theorem cons_perm_iff_withOthers {l k : List α} {a : α} :
    a :: k ~ l ↔ ∃ s ∈ withOthers l, a = s.1 ∧ k ~ s.2 := by
  constructor
  · intro h
    obtain ⟨o, ho⟩ := exists_mem_withOthers (h.mem_iff.1 (mem_cons_self ..))
    exact ⟨(a, o), ho, rfl, (h.trans (perm_of_mem_withOthers ho).symm).cons_inv⟩
  · intro h
    obtain ⟨s, hs, rfl, hp⟩ := h
    exact (hp.cons s.1).trans (perm_of_mem_withOthers hs)

theorem cons_subperm_iff_withOthers {l k : List α} {a : α} :
    a :: k <+~ l ↔ ∃ s ∈ withOthers l, a = s.1 ∧ k <+~ s.2 := by
  constructor
  · intro h
    obtain ⟨o, ho⟩ := exists_mem_withOthers (h.subset (mem_cons_self ..))
    refine ⟨(a, o), ho, rfl, ?_⟩
    rwa [← (perm_of_mem_withOthers ho).subperm_left, subperm_cons] at h
  · intro h
    obtain ⟨s, hs, rfl, hp⟩ := h
    rw [← (perm_of_mem_withOthers hs).subperm_left]
    exact (subperm_cons _).2 hp

end WithOthers

abbrev Taker := List Char → List Take

namespace Taker

def literal (word : String) : Taker
  | [] => []
  | c :: r =>
    match word.toList.head? with
    | some i => if Text.sameLetter c i then [⟨[.word word], r⟩] else []
    | none => []

def wildcard : Taker
  | [] => []
  | c :: r => [⟨[.letter c], r⟩]

def optional (t : Taker) : Taker := fun w => .skip w :: t w

def followed (t next : Taker) : Taker := fun w =>
  (t w).flatMap fun h => (next h.rest).map h.andThen

def sequence : List Taker → Taker
  | [] => fun _ => []
  | [t] => t
  | t :: u :: ts => followed t (sequence (u :: ts))

def allOfCount : Nat → List Taker → Taker
  | _, [t] => t
  | 0, _ => fun _ => []
  | n+1, ts => fun w => (withOthers ts).flatMap fun s => followed s.1 (allOfCount n s.2) w

def allOf (ts : List Taker) : Taker := allOfCount ts.length ts

def nonempty (t : Taker) : Taker := fun w => (t w).filter fun h => h.rest.length < w.length

/- There is no test for heads that leave nothing: past such a head there is nothing to find. -/
def someOfCount : Nat → List Taker → Taker
  | 0, _ => fun _ => []
  | n+1, ts => fun w =>
    (withOthers ts).flatMap fun s =>
      (nonempty s.1 w).flatMap fun h => h :: (someOfCount n s.2 h.rest).map h.andThen

def anySubset (ts : List Taker) : Taker := fun w => .skip w :: someOfCount ts.length ts w

def oneOf (ts : List Taker) : Taker := fun w => ts.flatMap fun t => t w

def group : Group → List Taker → Taker
  | .sequence => sequence
  | .allOf => allOf
  | .anySubset => anySubset
  | .oneOf => oneOf

theorem allOfCount_succ (n : Nat) {ts : List Taker} (h : 1 < ts.length) (w : List Char) :
    allOfCount (n+1) ts w =
      (withOthers ts).flatMap fun s => followed s.1 (allOfCount n s.2) w := by
  cases ts with
  | nil => simp at h
  | cons t ts =>
    cases ts with
    | nil => simp at h
    | cons u ts => rfl

@[simp] theorem nonempty_nil (t : Taker) : nonempty t [] = [] := by simp [nonempty]

/-- A head and what extends it are what follows the head, with nothing as one way to go on. -/
theorem someOfCount_succ (n : Nat) (ts : List Taker) (w : List Char) :
    someOfCount (n+1) ts w = (withOthers ts).flatMap fun s =>
      s.1.nonempty.followed (fun r => .skip r :: someOfCount n s.2 r) w := by
  have hh (h : Take) : h.andThen (.skip h.rest) = h := by simp [Take.andThen, Take.skip]
  simp only [someOfCount, followed, List.map_cons, hh]

theorem allOf_eq {ts : List Taker} (h : 1 < ts.length) (w : List Char) :
    allOf ts w = (withOthers ts).flatMap fun s => s.1.followed (allOf s.2) w := by
  obtain ⟨n, hn⟩ := Nat.exists_eq_add_one_of_ne_zero (Nat.ne_zero_of_lt h)
  rw [allOf, hn, allOfCount_succ n h]
  refine List.flatMap_congr fun s hs => ?_
  have hl := length_of_mem_withOthers hs
  rw [allOf, show s.2.length = n by omega]

/-- Nothing is taken, or else one takes a letter first, and then any of the others follow. -/
theorem anySubset_eq (ts : List Taker) (w : List Char) : anySubset ts w =
    .skip w :: (withOthers ts).flatMap fun s => s.1.nonempty.followed (anySubset s.2) w := by
  cases ts with
  | nil => rfl
  | cons t ts =>
    rw [anySubset, List.length_cons, someOfCount_succ]
    refine congrArg _ (List.flatMap_congr fun s hs => ?_)
    have hl := length_of_mem_withOthers hs
    rw [List.length_cons] at hl
    rw [← show s.2.length = ts.length by omega]
    rfl

end Taker

mutual
def Pattern.takes : Pattern → Taker
  | .literal w => .literal w
  | .wildcard => .wildcard
  | .optional p => .optional p.takes
  | .group g ps => .group g (Pattern.takers ps)
def Pattern.takers : List Pattern → List Taker
  | [] => []
  | p :: ps => p.takes :: Pattern.takers ps
end

@[simp] theorem Pattern.takers_eq (ps : List Pattern) : takers ps = ps.map takes := by
  induction ps with
  | nil => rfl
  | cons p ps ih => simp [takers, ih]

theorem Pattern.takes_allOf {ps : List Pattern} (h : 1 < ps.length) (w : List Char) :
    (group .allOf ps).takes w =
      (withOthers ps).flatMap fun s => s.1.takes.followed (group .allOf s.2).takes w := by
  simp only [takes, takers_eq, Taker.group]
  rw [Taker.allOf_eq (by simpa using h), withOthers_map, List.flatMap_map]

theorem Pattern.takes_anySubset (ps : List Pattern) (w : List Char) :
    (group .anySubset ps).takes w = .skip w :: (withOthers ps).flatMap fun s =>
      s.1.takes.nonempty.followed (group .anySubset s.2).takes w := by
  simp only [takes, takers_eq, Taker.group]
  rw [Taker.anySubset_eq, withOthers_map, List.flatMap_map]

namespace Matcher

/-- The matcher finds what `t` takes from the letters of a view, in the same order. -/
def Lists (m : Matcher) (t : Taker) : Prop := ∀ v, (m v).toList.map Match.take = t v.toList

variable {ι : Type u} {f : ι → Matcher} {g : ι → Taker} {m n : Matcher} {t u : Taker}

theorem lists_literal (word : String) : (literal word).Lists (.literal word) := by
  intro v
  cases hs : v.split? with
  | none =>
    rw [(Letters.split?_eq_none v).1 hs]
    simp [literal, hs, Taker.literal]
  | some s =>
    obtain ⟨c, r⟩ := s
    rw [Letters.toList_of_split? hs]
    cases hi : word.toList.head? with
    | none => simp [literal, hs, hi, Taker.literal]
    | some i =>
      by_cases hc : Text.sameLetter c i
      · simp [literal, hs, hi, hc, Taker.literal, Match.take]
      · simp [literal, hs, hi, hc, Taker.literal]

theorem lists_wildcard : wildcard.Lists .wildcard := by
  intro v
  cases hs : v.split? with
  | none =>
    rw [(Letters.split?_eq_none v).1 hs]
    simp [wildcard, hs, Taker.wildcard]
  | some s =>
    rw [Letters.toList_of_split? hs]
    simp [wildcard, hs, Taker.wildcard, Match.take]

theorem Lists.optional (h : m.Lists t) : (optional m).Lists (.optional t) := by
  intro v
  simp [Matcher.optional, Taker.optional, h v]

theorem Lists.map_andThen (hn : n.Lists u) (h : Match) :
    ((n h.rest).toList.map h.andThen).map Match.take =
      (u h.take.rest).map h.take.andThen := by
  have hu : u h.take.rest = (n h.rest).toList.map Match.take := (hn h.rest).symm
  rw [hu, List.map_map, List.map_map]
  rfl

theorem Lists.followed (hm : m.Lists t) (hn : n.Lists u) :
    (followed m n).Lists (.followed t u) := by
  intro v
  have hh (h : Match) : ((n h.rest).map h.andThen).toList.map Match.take =
      (u h.take.rest).map h.take.andThen := by
    rw [Enumeration.toList_map, hn.map_andThen h]
  rw [Matcher.followed, Taker.followed, ← hm v, Enumeration.toList_flatMap, List.map_flatMap,
    List.flatMap_map]
  simp only [hh]

theorem lists_sequence {l : List ι} (h : ∀ a ∈ l, (f a).Lists (g a)) :
    (sequence (l.map f)).Lists (.sequence (l.map g)) := by
  induction l with
  | nil => exact fun _ => rfl
  | cons a l ih =>
    have ha := h a (by simp)
    cases l with
    | nil => exact ha
    | cons b l => exact ha.followed (ih fun c hc => h c (List.mem_cons_of_mem a hc))

theorem toList_flatMap_selections {ms : List Matcher} (e : Matcher → List Matcher → Enumeration Match) :
    ((selections ms).flatMap fun s => e s.element s.others).toList =
      (withOthers ms).flatMap fun s => (e s.1 s.2).toList := by
  rw [← toList_selections, List.flatMap_map, Enumeration.toList_flatMap]

section
variable {ms : List Matcher} {k : Nat} {v : Letters}

theorem toList_followed (m next : Matcher) : (followed m next v).toList =
    (m v).toList.flatMap fun h => (next h.rest).toList.map h.andThen := by
  simp [followed]

theorem toList_allOfCount_succ (h : 1 < ms.length) : (allOfCount (k+1) ms v).toList =
    (withOthers ms).flatMap fun s => (followed s.1 (allOfCount k s.2) v).toList := by
  match ms with
  | [] => simp at h
  | [m] => simp at h
  | m :: m' :: ms =>
    exact toList_flatMap_selections fun m ms => followed m (allOfCount k ms) v

theorem toList_someOfCount_of_isEmpty (h : v.isEmpty = true) :
    (someOfCount k ms v).toList = [] := by
  have hv : v.length = 0 := by simpa [Letters.isEmpty] using h
  cases k with
  | zero => rfl
  | succ k =>
    rw [someOfCount, toList_flatMap_selections fun m ms => (nonempty m v).flatMap fun h => .found h
      fun _ => if h.isComplete then .done else (someOfCount k ms h.rest).map h.andThen]
    simp [nonempty, hv]

theorem toList_someOfCount_succ : (someOfCount (k+1) ms v).toList =
    (withOthers ms).flatMap fun s => ((s.1 v).toList.filter fun h => h.rest.length < v.length).flatMap
      fun h => h :: (someOfCount k s.2 h.rest).toList.map h.andThen := by
  have hh (ms : List Matcher) (h : Match) : (if h.isComplete then .done
      else (someOfCount k ms h.rest).map h.andThen : Enumeration Match).toList =
        (someOfCount k ms h.rest).toList.map h.andThen := by
    by_cases hc : h.isComplete = true
    · rw [if_pos hc, toList_someOfCount_of_isEmpty hc]
      rfl
    · rw [if_neg hc, Enumeration.toList_map]
  rw [someOfCount, toList_flatMap_selections fun m ms => (nonempty m v).flatMap fun h => .found h
    fun _ => if h.isComplete then .done else (someOfCount k ms h.rest).map h.andThen]
  simp only [nonempty, Enumeration.toList_flatMap, Enumeration.toList_filter,
    Enumeration.toList_found, hh]

end

theorem lists_allOfCount (k : Nat) {l : List ι} (h : ∀ a ∈ l, (f a).Lists (g a)) :
    (allOfCount k (l.map f)).Lists (.allOfCount k (l.map g)) := by
  induction k generalizing l with
  | zero =>
    match l, h with
    | [], _ => exact fun _ => rfl
    | [a], h => exact h a (by simp)
    | a :: b :: l, _ => exact fun _ => rfl
  | succ k ih =>
    match l, h with
    | [], _ => exact fun _ => rfl
    | [a], h => exact h a (by simp)
    | a :: b :: l, h =>
      intro v
      rw [toList_allOfCount_succ (by simp), Taker.allOfCount_succ k (by simp), withOthers_map,
        withOthers_map, List.map_flatMap, List.flatMap_map, List.flatMap_map]
      refine List.flatMap_congr fun s hs => ?_
      have hm := mem_of_mem_withOthers hs
      exact (h s.1 hm.1).followed (ih fun c hc => h c (hm.2 c hc)) v

theorem lists_allOf {l : List ι} (h : ∀ a ∈ l, (f a).Lists (g a)) :
    (allOf (l.map f)).Lists (.allOf (l.map g)) := by
  rw [allOf, Taker.allOf, List.length_map, List.length_map]
  exact lists_allOfCount _ h

theorem Lists.nonempty (h : m.Lists t) : (nonempty m).Lists (.nonempty t) := by
  intro v
  have hp (n : Match) : decide (n.rest.length < v.length) =
      decide (n.take.rest.length < v.toList.length) := by
    simp [Match.take]
  rw [Matcher.nonempty, Taker.nonempty, Enumeration.toList_filter, ← h v, List.filter_map]
  simp only [hp]
  rfl

theorem lists_someOfCount (k : Nat) {l : List ι} (h : ∀ a ∈ l, (f a).Lists (g a)) :
    (someOfCount k (l.map f)).Lists (.someOfCount k (l.map g)) := by
  induction k generalizing l with
  | zero => exact fun _ => rfl
  | succ k ih =>
    intro v
    change _ = (withOthers (l.map g)).flatMap fun s =>
      (s.1.nonempty v.toList).flatMap fun h => h :: (Taker.someOfCount k s.2 h.rest).map h.andThen
    rw [toList_someOfCount_succ, withOthers_map, withOthers_map, List.map_flatMap, List.flatMap_map,
      List.flatMap_map]
    refine List.flatMap_congr fun s hs => ?_
    have hm := mem_of_mem_withOthers hs
    have hr := ih fun c hc => h c (hm.2 c hc)
    have hh (n : Match) : (n :: (someOfCount k (s.2.map f) n.rest).toList.map n.andThen).map Match.take =
        n.take :: (Taker.someOfCount k (s.2.map g) n.take.rest).map n.take.andThen := by
      rw [List.map_cons, hr.map_andThen n]
    rw [← (h s.1 hm.1).nonempty v, Matcher.nonempty, Enumeration.toList_filter, List.map_flatMap,
      List.flatMap_map]
    simp only [hh]

theorem lists_anySubset {l : List ι} (h : ∀ a ∈ l, (f a).Lists (g a)) :
    (anySubset (l.map f)).Lists (.anySubset (l.map g)) := by
  intro v
  have hs := lists_someOfCount l.length h v
  simpa [anySubset, Taker.anySubset] using hs

theorem lists_oneOf {l : List ι} (h : ∀ a ∈ l, (f a).Lists (g a)) :
    (oneOf (l.map f)).Lists (.oneOf (l.map g)) := by
  intro v
  rw [oneOf, Taker.oneOf, Enumeration.toList_flatMap, Enumeration.toList_ofList, List.map_flatMap,
    List.flatMap_map, List.flatMap_map]
  exact List.flatMap_congr fun a ha => h a ha v

theorem lists_group (k : Group) {l : List ι} (h : ∀ a ∈ l, (f a).Lists (g a)) :
    (group k (l.map f)).Lists (.group k (l.map g)) := by
  cases k with
  | sequence => exact lists_sequence h
  | allOf => exact lists_allOf h
  | anySubset => exact lists_anySubset h
  | oneOf => exact lists_oneOf h

end Matcher

namespace Pattern

theorem lists_matcher (p : Pattern) : p.matcher.Lists p.takes := by
  induction p with
  | literal w => exact Matcher.lists_literal w
  | wildcard => exact Matcher.lists_wildcard
  | optional p ih => exact ih.optional
  | group g ps ih =>
    rw [matcher, takes, matchers_eq, takers_eq]
    exact Matcher.lists_group g ih

theorem map_take_matcher (p : Pattern) (v : Letters) :
    (p.matcher v).toList.map Match.take = p.takes v.toList :=
  lists_matcher p v

theorem length_spellings (p : Pattern) (v : Letters) :
    (p.spellings v).toList.length = (p.takes v.toList).countP Take.isComplete := by
  have hc : Match.isComplete = Take.isComplete ∘ Match.take := by
    funext m
    rw [Bool.eq_iff_iff, Match.isComplete_iff]
    exact List.isEmpty_iff.symm
  rw [spellings, Enumeration.toList_filter, ← List.countP_eq_length_filter, ← map_take_matcher,
    List.countP_map, hc]

end Pattern
end Initialism
