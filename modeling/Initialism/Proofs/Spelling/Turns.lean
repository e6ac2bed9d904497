import Initialism.Spelling

/-! The order in which the choices for the units of a word are gone through. It is that of their
numbers, read from the left: one move of the wheels leads to the next choice above, so that all the
moves from the first choice on meet every choice once. -/
namespace Initialism.Spelling
open List

def numbers (ws : List Wheel) : List Nat := ws.map (·.choice.val)

variable {ws us vs : List Wheel}

theorem numbers_cons (w : Wheel) (ws : List Wheel) :
    numbers (w :: ws) = w.choice.val :: numbers ws := rfl

theorem eq_of_numbers_eq (ho : us.map Wheel.options = ws.map Wheel.options)
    (hn : numbers us = numbers ws) : us = ws := by
  induction ws generalizing us with
  | nil => exact map_eq_nil_iff.1 ho
  | cons w ws ih =>
    obtain ⟨u, us, rfl, hu, ho⟩ := map_eq_cons_iff.1 ho
    obtain ⟨hi, hn⟩ := cons_eq_cons.1 hn
    have hw : u = w := by
      cases u
      subst hu
      exact congrArg (Wheel.mk _) (Fin.ext hi)
    rw [hw, ih ho hn]

theorem not_numbers_lt_iff (ho : us.map Wheel.options = ws.map Wheel.options) :
    ¬ numbers us < numbers ws ↔ us = ws ∨ numbers ws < numbers us := by
  constructor
  · intro h
    cases List.le_iff_lt_or_eq.1 h with
    | inl hlt => exact .inr hlt
    | inr he => exact .inl (eq_of_numbers_eq ho he.symm)
  · rintro (rfl | hlt)
    · exact List.lt_irrefl _
    · exact List.lt_asymm hlt

theorem not_numbers_lt_first (ho : us.map Wheel.options = ws.map Wheel.options) :
    ¬ numbers us < numbers (ws.map Wheel.first) := by
  induction ws generalizing us with
  | nil => exact List.not_lt_nil _
  | cons w ws ih =>
    obtain ⟨u, us, rfl, -, ho⟩ := map_eq_cons_iff.1 ho
    rw [map_cons, numbers_cons, numbers_cons, cons_lt_cons_iff]
    rintro (hlt | ⟨-, hlt⟩)
    · exact Nat.not_lt_zero _ hlt
    · exact ih ho hlt

theorem not_lt_numbers_of_advance?_none (h : advance? ws = none)
    (ho : us.map Wheel.options = ws.map Wheel.options) : ¬ numbers ws < numbers us := by
  induction ws generalizing us with
  | nil =>
    rw [map_eq_nil_iff.1 ho]
    exact List.lt_irrefl _
  | cons w ws ih =>
    obtain ⟨hn, hw⟩ := advance?_cons_none h
    obtain ⟨u, us, rfl, hu, ho⟩ := map_eq_cons_iff.1 ho
    rw [numbers_cons, numbers_cons, cons_lt_cons_iff]
    rintro (hlt | ⟨-, hlt⟩)
    · have hl : w.options.length ≤ w.choice + 1 :=
        Nat.sub_eq_zero_iff_le.1 (w.left_of_next?_none hw)
      have hu : u.choice < w.options.length := hu ▸ u.choice.isLt
      omega
    · exact ih hn ho hlt

/-- The wheels move on to the next choice above: what is above the one before is not below it. -/
theorem numbers_lt_iff_of_advance? (h : advance? ws = some vs)
    (ho : us.map Wheel.options = ws.map Wheel.options) :
    numbers ws < numbers us ↔ ¬ numbers us < numbers vs := by
  induction ws generalizing us vs with
  | nil => cases h
  | cons w ws ih =>
    obtain ⟨u, us, rfl, hu, ho⟩ := map_eq_cons_iff.1 ho
    obtain ⟨vs, hvs, rfl⟩ | ⟨hn, v, hv, rfl⟩ := advance?_cons h
    · rw [numbers_cons, numbers_cons, numbers_cons, cons_lt_cons_iff, cons_lt_cons_iff, ih hvs ho,
        not_or, not_and, Nat.not_lt]
      constructor
      · rintro (hlt | ⟨he, hn⟩)
        · exact ⟨Nat.le_of_lt hlt, fun he => absurd he (Nat.ne_of_gt hlt)⟩
        · exact ⟨Nat.le_of_eq he, fun _ => hn⟩
      · rintro ⟨hle, hn⟩
        exact (Nat.lt_or_eq_of_le hle).imp_right fun he => ⟨he, hn he.symm⟩
    · -- The wheels behind go from the last choice for them to the first.
      have hlast := not_lt_numbers_of_advance?_none hn ho
      have hfirst := not_numbers_lt_first ho
      rw [numbers_cons, numbers_cons, numbers_cons, cons_lt_cons_iff, cons_lt_cons_iff,
        (Wheel.eq_of_next? hv).2, or_iff_left fun h => hlast h.2, or_iff_left fun h => hfirst h.2]
      omega

theorem toList_turns_of_some (h : advance? ws = some vs) :
    (turns ws).toList = ws :: (turns vs).toList := by
  rw [turns, Enumeration.toList_found]
  split
  · next hus => rw [Option.some.inj (hus.symm.trans h)]
  · next hn => cases hn.symm.trans h

theorem toList_turns_of_none (h : advance? ws = none) : (turns ws).toList = [ws] := by
  rw [turns, Enumeration.toList_found]
  split
  · next hus => cases hus.symm.trans h
  · rfl

/-- To show something of all choices, show it of the last one and of each from which the wheels move
on to one of which it holds. -/
theorem turns_induction {P : List Wheel → Prop} (last : ∀ ws, advance? ws = none → P ws)
    (move : ∀ ws vs, advance? ws = some vs → P vs → P ws) (ws : List Wheel) : P ws := by
  induction ws using turns.induct with
  | case1 ws ih =>
    cases h : advance? ws with
    | none => exact last ws h
    | some vs => exact move ws vs h (ih vs h)

theorem mem_turns : us ∈ (turns ws).toList ↔
    us.map Wheel.options = ws.map Wheel.options ∧ ¬ numbers us < numbers ws := by
  induction ws using turns_induction with
  | last ws hn =>
    rw [toList_turns_of_none hn, mem_singleton]
    constructor
    · rintro rfl
      exact ⟨rfl, List.lt_irrefl _⟩
    · rintro ⟨ho, h⟩
      exact ((not_numbers_lt_iff ho).1 h).resolve_right (not_lt_numbers_of_advance?_none hn ho)
  | move ws vs hvs ih =>
    rw [toList_turns_of_some hvs, mem_cons, ih, map_options_advance? hvs]
    constructor
    · rintro (rfl | ⟨ho, h⟩)
      · exact ⟨rfl, List.lt_irrefl _⟩
      · have hlt := (numbers_lt_iff_of_advance? hvs ho).2 h
        exact ⟨ho, (not_numbers_lt_iff ho).2 (.inr hlt)⟩
    · rintro ⟨ho, h⟩
      have hstep := numbers_lt_iff_of_advance? hvs ho
      exact ((not_numbers_lt_iff ho).1 h).imp_right fun hlt => ⟨ho, hstep.1 hlt⟩

theorem pairwise_numbers_turns (ws : List Wheel) :
    ((turns ws).toList.map numbers).Pairwise (· < ·) := by
  rw [pairwise_map]
  induction ws using turns_induction with
  | last ws hn =>
    rw [toList_turns_of_none hn]
    exact pairwise_singleton _ _
  | move ws vs hvs ih =>
    rw [toList_turns_of_some hvs]
    refine .cons (fun us hus => ?_) ih
    obtain ⟨ho, h⟩ := mem_turns.1 hus
    rw [map_options_advance? hvs] at ho
    exact (numbers_lt_iff_of_advance? hvs ho).2 h

end Initialism.Spelling
