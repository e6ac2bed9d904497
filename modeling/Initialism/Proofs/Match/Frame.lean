import Mathlib.Data.List.DropRight
import Initialism.Proofs.Match.Congruence

/-! What a match leaves it has not read. With more letters behind a word there are the same matches
as before, in the same order, each of them leaving these letters as well; and every match that is
new takes some of them. -/
namespace Initialism
open List

namespace Take

def before (r : List Char) (s : Take) : Take := ⟨s.items, s.rest ++ r⟩

def spares (r : List Char) (s : Take) : Bool := r.length ≤ s.rest.length

def without (r : List Char) (s : Take) : Take := ⟨s.items, s.rest.rdrop r.length⟩

variable {r : List Char}

theorem without_before (s : Take) : (s.before r).without r = s := by
  obtain ⟨is, rest⟩ := s
  simp [before, without, rdrop]

@[simp] theorem rest_before (s : Take) : (s.before r).rest = s.rest ++ r := rfl

theorem before_andThen (s t : Take) : (s.before r).andThen (t.before r) = (s.andThen t).before r := rfl

theorem length_before_lt_iff (s : Take) (u : List Char) :
    (s.before r).rest.length < (u ++ r).length ↔ s.rest.length < u.length := by
  simp [before]

end Take

/-- Letters behind a word are seen only by what takes one of them. -/
structure Taker.Framed (t : Taker) : Prop where
  suffix : ∀ w, ∀ s ∈ t w, s.rest <:+ w
  frame : ∀ u r, (t (u ++ r)).filter (Take.spares r) = (t u).map (Take.before r)

namespace Taker
variable {t next : Taker}

theorem framed_skip : Framed fun w => [.skip w] := by
  constructor
  · intro w s hs
    obtain rfl := mem_singleton.1 hs
    exact suffix_refl w
  · intro u r
    have hr : (Take.skip (u ++ r)).spares r = true := by simp [Take.spares, Take.skip]
    rw [filter_cons_of_pos hr]
    rfl

theorem Framed.append (ht : t.Framed) (hn : next.Framed) : Framed fun w => t w ++ next w := by
  constructor
  · intro w s hs
    exact (mem_append.1 hs).elim (ht.suffix w s) (hn.suffix w s)
  · intro u r
    rw [filter_append, map_append, ht.frame, hn.frame]

theorem Framed.nonempty (ht : t.Framed) : t.nonempty.Framed := by
  constructor
  · intro w s hs
    exact ht.suffix w s (mem_filter.1 hs).1
  · intro u r
    have hl : ((fun s : Take => decide (s.rest.length < (u ++ r).length)) ∘ Take.before r) =
        fun s => decide (s.rest.length < u.length) := by
      funext s
      exact decide_eq_decide.2 (s.length_before_lt_iff u)
    rw [Taker.nonempty, Taker.nonempty, filter_comm, ht.frame, filter_map, hl]

theorem Framed.followed (ht : t.Framed) (hn : next.Framed) : (t.followed next).Framed := by
  constructor
  · intro w s hs
    obtain ⟨h, hh, hs⟩ := mem_flatMap.1 hs
    obtain ⟨n, hm, rfl⟩ := mem_map.1 hs
    exact (hn.suffix h.rest n hm).trans (ht.suffix w h hh)
  · intro u r
    -- A head that has taken letters of `r` is followed only by more of the kind.
    have hnil (h : Take) (_ : h ∈ t (u ++ r)) (hr : h.spares r = false) :
        ((next h.rest).filter (Take.spares r)).map h.andThen = [] := by
      rw [map_eq_nil_iff, filter_eq_nil_iff]
      intro s hs
      have hl := (hn.suffix h.rest s hs).length_le
      have hr : ¬ r.length ≤ h.rest.length := of_decide_eq_false hr
      simp only [Take.spares, decide_eq_true_eq]
      omega
    have hb (h : Take) : ((next (h.before r).rest).filter (Take.spares r)).map (h.before r).andThen =
        ((next h.rest).map h.andThen).map (Take.before r) := by
      have hc : (h.before r).andThen ∘ Take.before r = Take.before r ∘ h.andThen :=
        funext h.before_andThen
      rw [Take.rest_before, hn.frame, map_map, map_map, hc]
    calc
      (t.followed next (u ++ r)).filter (Take.spares r)
          = (t (u ++ r)).flatMap fun h => ((next h.rest).filter (Take.spares r)).map h.andThen := by
            rw [Taker.followed, filter_flatMap]
            simp only [filter_map]
            rfl
      _ = ((t (u ++ r)).filter (Take.spares r)).flatMap fun h =>
            ((next h.rest).filter (Take.spares r)).map h.andThen :=
            (flatMap_filter_of_eq_nil hnil).symm
      _ = (t u).flatMap fun h => ((next h.rest).map h.andThen).map (Take.before r) := by
            rw [ht.frame, flatMap_map]
            simp only [hb]
      _ = (t.followed next u).map (Take.before r) := by rw [Taker.followed, map_flatMap]

theorem congruence_framed : Congruence fun t _ => t.Framed where
  none := ⟨fun _ _ hs => absurd hs not_mem_nil, fun _ _ => rfl⟩
  skip := framed_skip
  append := .append
  nonempty := .nonempty
  followed := .followed

theorem framed_of_cons (hnil : t [] = [])
    (hcons : ∀ c w, t (c :: w) = (t [c]).map fun s => ⟨s.items, w⟩) : t.Framed := by
  constructor
  · intro w s hs
    cases w with
    | nil => simp [hnil] at hs
    | cons c w =>
      rw [hcons] at hs
      obtain ⟨s, -, rfl⟩ := mem_map.1 hs
      exact suffix_cons c w
  · intro u r
    cases u with
    | nil =>
      rw [hnil, map_nil, nil_append, filter_eq_nil_iff]
      intro s hs
      cases r with
      | nil => simp [hnil] at hs
      | cons c r =>
        rw [hcons] at hs
        obtain ⟨s, -, rfl⟩ := mem_map.1 hs
        simp [Take.spares]
    | cons c u =>
      have hs (is : List Item) : (Take.mk is (u ++ r)).spares r = true := by simp [Take.spares]
      rw [cons_append, hcons, hcons c u, map_map, filter_map]
      simp [Function.comp_def, hs, Take.before]

theorem framed_literal (word : String) : (literal word).Framed := by
  apply framed_of_cons rfl
  intro c w
  cases hi : word.toList.head? with
  | none => simp [literal, hi]
  | some i =>
    by_cases hc : Text.sameLetter c i
    · simp [literal, hi, hc]
    · simp [literal, hi, hc]

theorem framed_wildcard : wildcard.Framed := framed_of_cons rfl fun _ _ => rfl

end Taker

namespace Pattern
variable {v w : Letters} {r : List Char}

theorem framed_takes (p : Pattern) : p.takes.Framed :=
  p.takes_self Taker.congruence_framed Taker.framed_literal Taker.framed_wildcard

/-- What is taken without the letters behind a word is, in order, what leaves just these. -/
theorem map_items_filter_takes (p : Pattern) (u r : List Char) :
    ((p.takes (u ++ r)).filter fun s => s.rest = r).map Take.items =
      ((p.takes u).filter fun s => s.rest = []).map Take.items := by
  have hr (s : Take) : (decide (s.rest = r) && s.spares r) = decide (s.rest = r) := by
    rw [Bool.and_eq_left_iff_imp, decide_eq_true_eq]
    intro h
    simp [Take.spares, h]
  have hb : ((fun s : Take => decide (s.rest = r)) ∘ Take.before r) = fun s => decide (s.rest = []) := by
    funext s
    simp [Take.before]
  calc
    ((p.takes (u ++ r)).filter fun s => s.rest = r).map Take.items
        = (((p.takes (u ++ r)).filter (Take.spares r)).filter fun s => s.rest = r).map Take.items := by
          rw [filter_filter]
          simp only [hr]
    _ = (((p.takes u).filter fun s => s.rest = []).map (Take.before r)).map Take.items := by
          rw [p.framed_takes.frame, filter_map, hb]
    _ = ((p.takes u).filter fun s => s.rest = []).map Take.items := by
          rw [map_map]
          rfl

theorem filter_matcher_eq (p : Pattern) (v : Letters) (P : List Char → Bool) :
    (((p.matcher v).toList.filter fun m => P m.rest.toList).map Match.take) =
      (p.takes v.toList).filter fun s => P s.rest := by
  rw [← map_take_matcher, filter_map]
  rfl

theorem filter_matcher_append (p : Pattern) (h : w.toList = v.toList ++ r) :
    ((p.matcher w).toList.filter fun m => r.length ≤ m.rest.length).map Match.take =
      ((p.matcher v).toList.map Match.take).map (Take.before r) := by
  simp only [← Letters.length_toList]
  rw [p.filter_matcher_eq w fun cs => r.length ≤ cs.length, h, map_take_matcher]
  exact p.framed_takes.frame v.toList r

/-- With letters behind a word its matches are still there, in the same order: they are those that
leave at least these letters, and they do leave them at the end. So what spells the whole word is
what leaves just these. -/
theorem matcher_append (p : Pattern) (h : w.toList = v.toList ++ r) :
    (((p.matcher w).toList.filter fun m => r.length ≤ m.rest.length).map fun m => m.take.without r) =
        (p.matcher v).toList.map Match.take ∧
      (∀ m ∈ (p.matcher w).toList, r.length ≤ m.rest.length → r <:+ m.rest.toList) ∧
      ((p.matcher w).toList.filter fun m => m.rest.toList = r).map Match.items =
        (p.spellings v).toList.map Match.items := by
  have hf := p.filter_matcher_append h
  refine ⟨?_, ?_, ?_⟩
  · calc
      ((p.matcher w).toList.filter fun m => r.length ≤ m.rest.length).map (fun m => m.take.without r)
          = (((p.matcher w).toList.filter fun m => r.length ≤ m.rest.length).map Match.take).map
              (Take.without r) := by
            rw [map_map]
            rfl
      _ = (p.matcher v).toList.map Match.take := by
            rw [hf, map_map, Function.comp_def]
            simp only [Take.without_before, map_id']
  · intro m hm hl
    have ht : m.take ∈ ((p.matcher v).toList.map Match.take).map (Take.before r) := by
      rw [← hf]
      exact mem_map_of_mem (mem_filter.2 ⟨hm, decide_eq_true hl⟩)
    obtain ⟨s, -, hs⟩ := mem_map.1 ht
    exact ⟨s.rest, congrArg Take.rest hs⟩
  · have hi := p.map_items_filter_takes v.toList r
    rw [← h, ← p.filter_matcher_eq w (fun cs => cs = r), ← p.filter_matcher_eq v (fun cs => cs = []),
      map_map, map_map] at hi
    have hc (m : Match) : m.isComplete = decide (m.rest.toList = []) := by
      rw [Bool.eq_iff_iff, Match.isComplete_iff, decide_eq_true_eq]
    rw [spellings, Enumeration.toList_filter, funext hc]
    exact hi

theorem matcher_append_aab :
    let p := group .anySubset [wildcard, literal "an"]
    let v := Letters.ofString "a"
    let w := Letters.ofString "aab"
    w.toList = v.toList ++ ['a', 'b'] ∧
      (p.matcher w).toList.map Match.take =
        [⟨[], ['a', 'a', 'b']⟩, ⟨[.letter 'a'], ['a', 'b']⟩, ⟨[.letter 'a', .word "an"], ['b']⟩,
          ⟨[.word "an"], ['a', 'b']⟩, ⟨[.word "an", .letter 'a'], ['b']⟩] ∧
      (((p.matcher w).toList.filter fun m => 2 ≤ m.rest.length).map fun m =>
        m.take.without ['a', 'b']) = (p.matcher v).toList.map Match.take ∧
      ((p.matcher w).toList.filter fun m => m.rest.toList = ['a', 'b']).map Match.items =
        (p.spellings v).toList.map Match.items := by
  intro p v w
  have h : w.toList = v.toList ++ ['a', 'b'] := by decide
  obtain ⟨ha, -, hc⟩ := p.matcher_append h
  exact ⟨h, by decide, ha, hc⟩

end Pattern
end Initialism
