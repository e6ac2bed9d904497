import Initialism.Proofs.Match.Take

/-! Views of one word. Matching hands on only views reached from the one it was given by taking off
letters from the front: they share its word and stay within it. And a view is matched as its
letters alone would be, whatever stands in front of them in the word. -/
namespace Initialism
open List

namespace Letters

/-- A view is reached from `v` by taking off letters, so many, one at a time. Copying a view is no
step: the copy is the view. -/
inductive Narrowed (v : Letters) : Nat → Letters → Prop
  | whole : Narrowed v 0 v
  | split {n : Nat} {c : Char} {u r : Letters} :
      Narrowed v n u → u.split? = some (c, r) → Narrowed v (n+1) r

/-- The view looks at `cs` from the letter numbered `n` on, which is in it or just past its end. So
nothing is cut off where its start is taken from the size of the word. -/
structure Shows (v : Letters) (cs : List Char) (n : Nat) : Prop where
  word : v.word = cs.toArray
  start : v.start = n
  start_le : v.start ≤ v.word.size
  length : v.length + v.start = v.word.size
  letters : v.toList = cs.drop n

variable {u v r : Letters} {c : Char} {cs : List Char} {n k : Nat}

theorem eq_of_split? (h : v.split? = some (c, r)) : r.word = v.word ∧ r.start = v.start + 1 := by
  rw [split?] at h
  split at h
  · obtain ⟨-, rfl⟩ := Prod.mk.inj (Option.some.inj h)
    exact ⟨rfl, rfl⟩
  · cases h

namespace Narrowed

theorem trans (hu : v.Narrowed n u) (hr : u.Narrowed k r) : v.Narrowed (n+k) r := by
  induction hr with
  | whole => exact hu
  | split _ hs ih => exact ih.split hs

theorem word_eq (h : v.Narrowed n r) : r.word = v.word := by
  induction h with
  | whole => rfl
  | split _ hs ih => exact (eq_of_split? hs).1.trans ih

theorem start_eq (h : v.Narrowed n r) : r.start = v.start + n := by
  induction h with
  | whole => rfl
  | split _ hs ih => rw [(eq_of_split? hs).2, ih, Nat.add_assoc]

theorem toList_eq (h : v.Narrowed n r) : r.toList = v.toList.drop n := by
  induction h with
  | whole => rfl
  | split _ hs ih => rw [← drop_drop, ← ih, toList_of_split? hs, drop_succ_cons, drop_zero]

/-- Only a letter that is there is taken off, so no more are taken off than there are. -/
theorem length_add (h : v.Narrowed n r) : r.length + n = v.length := by
  induction h with
  | whole => rfl
  | split _ hs ih =>
    have hl := congrArg List.length (toList_of_split? hs)
    rw [length_cons, length_toList, length_toList] at hl
    omega

theorem shows (h : (ofList cs).Narrowed n v) : v.Shows cs n := by
  have hs : v.start = n := h.start_eq.trans (Nat.zero_add n)
  have hl : v.length + v.start = v.word.size := by
    rw [hs, h.length_add, h.word_eq]
    rfl
  have hc : v.toList = cs.drop n := by rw [h.toList_eq, toList_ofList]
  exact ⟨h.word_eq, hs, Nat.le.intro ((Nat.add_comm _ _).trans hl), hl, hc⟩

end Narrowed
end Letters

namespace Matcher

def Narrows (m : Matcher) : Prop := ∀ v, ∀ h ∈ (m v).toList, v.Narrowed h.items.length h.rest

variable {m next : Matcher} {ms : List Matcher}

theorem narrows_done : Narrows fun _ => .done := fun _ _ hh => absurd hh not_mem_nil

theorem narrows_literal (word : String) : (literal word).Narrows := by
  intro v h hh
  cases hs : v.split? with
  | none => simp [literal, hs] at hh
  | some s =>
    obtain ⟨c, r⟩ := s
    cases hi : word.toList.head? with
    | none => simp [literal, hs, hi] at hh
    | some i =>
      by_cases hc : Text.sameLetter c i
      · obtain rfl : h = ⟨[.word word], r⟩ := by simpa [literal, hs, hi, hc] using hh
        exact .split .whole hs
      · simp [literal, hs, hi, hc] at hh

theorem narrows_wildcard : wildcard.Narrows := by
  intro v h hh
  cases hs : v.split? with
  | none => simp [wildcard, hs] at hh
  | some s =>
    obtain ⟨c, r⟩ := s
    obtain rfl : h = ⟨[.letter c], r⟩ := by simpa [wildcard, hs] using hh
    exact .split .whole hs

theorem Narrows.optional (hm : m.Narrows) : (optional m).Narrows := by
  intro v h hh
  cases mem_cons.1 hh with
  | inl he => exact he ▸ .whole
  | inr hh => exact hm v h hh

theorem Narrows.andThen (hn : next.Narrows) {v : Letters} {h n : Match}
    (hh : v.Narrowed h.items.length h.rest) (hm : n ∈ (next h.rest).toList.map h.andThen) :
    v.Narrowed n.items.length n.rest := by
  obtain ⟨t, ht, rfl⟩ := mem_map.1 hm
  rw [Match.items_andThen, Match.rest_andThen, length_append]
  exact hh.trans (hn h.rest t ht)

theorem Narrows.followed (hm : m.Narrows) (hn : next.Narrows) : (followed m next).Narrows := by
  intro v n hh
  rw [toList_followed] at hh
  obtain ⟨h, hh, hr⟩ := mem_flatMap.1 hh
  exact hn.andThen (hm v h hh) hr

theorem narrows_sequence (h : ∀ m ∈ ms, m.Narrows) : (sequence ms).Narrows := by
  induction ms with
  | nil => exact narrows_done
  | cons m ms ih =>
    obtain ⟨hm, hms⟩ := forall_mem_cons.1 h
    cases ms with
    | nil => exact hm
    | cons n ms => exact hm.followed (ih hms)

theorem narrows_allOfCount (k : Nat) (h : ∀ m ∈ ms, m.Narrows) : (allOfCount k ms).Narrows := by
  induction k generalizing ms with
  | zero =>
    match ms, h with
    | [], _ => exact narrows_done
    | [m], h => exact h m mem_cons_self
    | _ :: _ :: _, _ => exact narrows_done
  | succ k ih =>
    match ms, h with
    | [], _ => exact narrows_done
    | [m], h => exact h m mem_cons_self
    | m :: n :: ms, h =>
      intro v t ht
      rw [toList_allOfCount_succ (by simp)] at ht
      obtain ⟨s, hs, ht⟩ := mem_flatMap.1 ht
      have hm := mem_of_mem_withOthers hs
      exact (h s.1 hm.1).followed (ih fun m hms => h m (hm.2 m hms)) v t ht

theorem narrows_someOfCount (k : Nat) (h : ∀ m ∈ ms, m.Narrows) : (someOfCount k ms).Narrows := by
  induction k generalizing ms with
  | zero => exact narrows_done
  | succ k ih =>
    intro v t ht
    rw [toList_someOfCount_succ] at ht
    obtain ⟨s, hs, ht⟩ := mem_flatMap.1 ht
    obtain ⟨a, ha, ht⟩ := mem_flatMap.1 ht
    have hm := mem_of_mem_withOthers hs
    have hv := h s.1 hm.1 v a (mem_filter.1 ha).1
    cases mem_cons.1 ht with
    | inl he => exact he ▸ hv
    | inr ht => exact (ih fun m hms => h m (hm.2 m hms)).andThen hv ht

theorem narrows_oneOf (h : ∀ m ∈ ms, m.Narrows) : (oneOf ms).Narrows := by
  intro v n hn
  rw [oneOf, Enumeration.toList_flatMap, Enumeration.toList_ofList] at hn
  obtain ⟨m, hm, hn⟩ := mem_flatMap.1 hn
  exact h m hm v n hn

theorem narrows_group (g : Group) (h : ∀ m ∈ ms, m.Narrows) : (group g ms).Narrows := by
  cases g with
  | sequence => exact narrows_sequence h
  | allOf => exact narrows_allOfCount _ h
  | anySubset => exact (narrows_someOfCount _ h).optional
  | oneOf => exact narrows_oneOf h

end Matcher

namespace Pattern
variable {v w : Letters} {cs : List Char} {n : Nat}

theorem narrows_matcher (p : Pattern) : p.matcher.Narrows := by
  induction p with
  | literal w => exact Matcher.narrows_literal w
  | wildcard => exact Matcher.narrows_wildcard
  | optional p ih => exact ih.optional
  | group g ps ih =>
    rw [matcher, matchers_eq]
    exact Matcher.narrows_group g (forall_mem_map.2 ih)

theorem forall₂_matcher_of_toList_eq (p : Pattern) (h : v.toList = w.toList) :
    Forall₂ (fun m n => (m == n) = true) (p.matcher v).toList (p.matcher w).toList := by
  have ht : Forall₂ (· = ·) ((p.matcher v).toList.map Match.take)
      ((p.matcher w).toList.map Match.take) := by
    rw [forall₂_eq_eq_eq, map_take_matcher, map_take_matcher, h]
  rw [forall₂_map_left_iff, forall₂_map_right_iff] at ht
  refine ht.imp fun m n hmn => (Match.beq_iff m n).2 ?_
  exact ⟨congrArg Take.items hmn, congrArg Take.rest hmn⟩

/-- A view reached from that of a whole word starts at the letter past those taken off and not past
the end of the word. So does the view that any of its matches leaves, reached by taking off one
letter more for each item. And the matches are, one by one, equal to those of the letters that remain
in a word of their own. -/
theorem matcher_of_narrowed (h : (Letters.ofList cs).Narrowed n v) (p : Pattern) :
    v.Shows cs n ∧
    (∀ m ∈ (p.matcher v).toList, (Letters.ofList cs).Narrowed (n + m.items.length) m.rest ∧
      m.rest.Shows cs (n + m.items.length)) ∧
    Forall₂ (fun m k => (m == k) = true) (p.matcher v).toList
      (p.matcher (.ofList v.toList)).toList := by
  refine ⟨h.shows, fun m hm => ?_, ?_⟩
  · have hr := h.trans (p.narrows_matcher v m hm)
    exact ⟨hr, hr.shows⟩
  · exact p.forall₂_matcher_of_toList_eq (Letters.toList_ofList _).symm

theorem matcher_of_narrowed_xab :
    let p := group .anySubset [literal "a", optional (literal "b")]
    let cs := ['x', 'a', 'b']
    let v : Letters := ⟨cs.toArray, 1, by decide⟩
    (Letters.ofList cs).Narrowed 1 v ∧ v.Shows cs 1 ∧
      (p.matcher v).toList.map (·.rest.start) = [1, 2, 3] ∧
      (∀ m ∈ (p.matcher v).toList, m.rest.Shows cs (1 + m.items.length)) ∧
      Forall₂ (fun m k => (m == k) = true) (p.matcher v).toList
        (p.matcher (.ofList ['a', 'b'])).toList := by
  intro p cs v
  have h : (Letters.ofList cs).Narrowed 1 v :=
    .split .whole (show (Letters.ofList cs).split? = some ('x', v) from rfl)
  obtain ⟨hv, hm, hf⟩ := matcher_of_narrowed h p
  exact ⟨h, hv, by decide, fun m hr => (hm m hr).2, hf⟩

end Pattern
end Initialism
