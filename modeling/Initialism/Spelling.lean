import Std.Data.TreeSet
import Initialism.Enumeration
import Initialism.Text.Blank
import Initialism.Text.Case

/-! Phonetic spellings of a word. The word is cut into units, from the left; each unit can be
spelled as itself or in the other ways of the table, and a spelling is one choice for every unit. The
choices are gone through like the readings of a counter, one wheel for each unit. -/
namespace Initialism.Spelling

def table : List (List Char × List (List Char)) := [
  (['c'], [['k']]),
  (['k'], [['c']]),
  (['i'], [['e', 'e'], ['i', 'i'], ['y']]),
  (['e', 'e'], [['i'], ['i', 'i'], ['y']]),
  (['o', 'o'], [['u']]),
  (['a'], [['u'], ['o']]),
  (['o'], [['u'], ['a']]),
  (['u'], [['a'], ['o'], ['o', 'o']]),
  (['j'], [['g'], ['g', 'g']]),
  (['g'], [['g', 'g']]),
  (['h'], [['k', 'h']]),
  (['k', 'h'], [['h'], ['c', 'h']]),
  (['y'], [['e', 'e'], ['i'], ['i', 'i']]),
  (['s', 'h'], [['x', 'i']]),
  (['x', 'i'], [['s', 'h']]),
  (['w'], [['u', 'i']]),
  (['u', 'i'], [['w']])]

def isUnit (u : List Char) : Bool := (table.lookup u).isSome

def options (u : List Char) : List (List Char) := u :: (table.lookup u).getD []

def units : List Char → List (List Char)
  | [] => []
  | [a] => [[a]]
  | a :: b :: r => if isUnit [a, b] then [a, b] :: units r else [a] :: units (b :: r)

/-- A unit with the ways to spell it, and the number of the one that is chosen. -/
structure Wheel where
  options : List (List Char)
  choice : Fin options.length

namespace Wheel

def ofUnit (u : List Char) : Wheel := ⟨Spelling.options u, ⟨0, Nat.zero_lt_succ _⟩⟩

def text (w : Wheel) : List Char := w.options[w.choice]

def first (w : Wheel) : Wheel := ⟨w.options, ⟨0, w.choice.pos⟩⟩

def next? (w : Wheel) : Option Wheel :=
  if h : w.choice + 1 < w.options.length then some ⟨w.options, ⟨w.choice + 1, h⟩⟩ else none

def left (w : Wheel) : Nat := w.options.length - (w.choice + 1)

variable {w v : Wheel}

theorem eq_of_next? (h : w.next? = some v) :
    v.options = w.options ∧ v.choice.val = w.choice.val + 1 := by
  rw [next?] at h
  split at h
  · obtain rfl := Option.some.inj h
    exact ⟨rfl, rfl⟩
  · cases h

theorem left_first (w : Wheel) : w.first.left + 1 = w.options.length :=
  Nat.sub_add_cancel w.choice.pos

theorem left_next? (h : w.next? = some v) : v.left + 1 = w.left := by
  obtain ⟨ho, hc⟩ := eq_of_next? h
  have hv : w.choice.val + 1 < w.options.length := hc ▸ ho ▸ v.choice.isLt
  rw [left, left, hc, ho, ← Nat.sub_sub _ _ 1]
  exact Nat.sub_add_cancel (Nat.sub_pos_of_lt hv)

theorem left_of_next?_none (h : w.next? = none) : w.left = 0 := by
  rw [next?] at h
  split at h
  · cases h
  · next hn => exact Nat.sub_eq_zero_of_le (Nat.not_lt.1 hn)

end Wheel

/-- Moves the last wheel on by one. A wheel past its end starts again and moves on the one before
it; none is left to move when all have started again. -/
def advance? : List Wheel → Option (List Wheel)
  | [] => none
  | w :: ws =>
    match advance? ws with
    | some vs => some (w :: vs)
    | none => w.next?.map (· :: ws.map Wheel.first)

section Advance
variable {w : Wheel} {ws vs : List Wheel}

theorem advance?_cons (h : advance? (w :: ws) = some vs) :
    (∃ us, advance? ws = some us ∧ vs = w :: us) ∨
    advance? ws = none ∧ ∃ v, w.next? = some v ∧ vs = v :: ws.map Wheel.first := by
  rw [advance?] at h
  split at h
  · next us hus => exact .inl ⟨us, hus, (Option.some.inj h).symm⟩
  · next hn =>
    obtain ⟨v, hv, he⟩ := Option.map_eq_some_iff.1 h
    exact .inr ⟨hn, v, hv, he.symm⟩

theorem advance?_cons_none (h : advance? (w :: ws) = none) :
    advance? ws = none ∧ w.next? = none := by
  rw [advance?] at h
  split at h
  · cases h
  · next hn => exact ⟨hn, Option.map_eq_none_iff.1 h⟩

theorem map_options_first (ws : List Wheel) :
    (ws.map Wheel.first).map Wheel.options = ws.map Wheel.options := List.map_map

theorem map_options_advance? (h : advance? ws = some vs) :
    vs.map Wheel.options = ws.map Wheel.options := by
  induction ws generalizing vs with
  | nil => cases h
  | cons w ws ih =>
    obtain ⟨us, hus, rfl⟩ | ⟨-, v, hv, rfl⟩ := advance?_cons h
    · rw [List.map_cons, List.map_cons, ih hus]
    · rw [List.map_cons, List.map_cons, (Wheel.eq_of_next? hv).1, map_options_first]

def count : List Wheel → Nat
  | [] => 1
  | w :: ws => w.options.length * count ws

def ahead : List Wheel → Nat
  | [] => 0
  | w :: ws => w.left * count ws + ahead ws

theorem count_congr (h : vs.map Wheel.options = ws.map Wheel.options) : count vs = count ws := by
  induction ws generalizing vs with
  | nil => rw [List.map_eq_nil_iff.1 h]
  | cons w ws ih =>
    obtain ⟨v, us, rfl, hv, hus⟩ := List.map_eq_cons_iff.1 h
    rw [count, count, hv, ih hus]

theorem ahead_first (ws : List Wheel) : ahead (ws.map Wheel.first) + 1 = count ws := by
  induction ws with
  | nil => rfl
  | cons w ws ih =>
    rw [List.map_cons, ahead, count_congr (map_options_first ws), Nat.add_assoc, ih, count,
      ← Nat.succ_mul, Nat.succ_eq_add_one, w.left_first]

theorem ahead_of_advance?_none (h : advance? ws = none) : ahead ws = 0 := by
  induction ws with
  | nil => rfl
  | cons w ws ih =>
    obtain ⟨hn, hw⟩ := advance?_cons_none h
    rw [ahead, ih hn, Wheel.left_of_next?_none hw, Nat.zero_mul]

theorem ahead_advance? (h : advance? ws = some vs) : ahead vs + 1 = ahead ws := by
  induction ws generalizing vs with
  | nil => cases h
  | cons w ws ih =>
    obtain ⟨us, hus, rfl⟩ | ⟨hn, v, hv, rfl⟩ := advance?_cons h
    · rw [ahead, ahead, count_congr (map_options_advance? hus), Nat.add_assoc, ih hus]
    · rw [ahead, ahead, ahead_of_advance?_none hn, count_congr (map_options_first ws),
        Nat.add_assoc, ahead_first, ← Nat.succ_mul, Nat.succ_eq_add_one, Wheel.left_next? hv,
        Nat.add_zero]

end Advance

def turns (ws : List Wheel) : Enumeration (List Wheel) :=
  .found ws fun _ =>
    match _h : advance? ws with
    | some vs => turns vs
    | none => .done
termination_by ahead ws
decreasing_by exact Nat.lt_of_succ_le (Nat.le_of_eq (ahead_advance? ‹_›))

def distinct (seen : Std.TreeSet String) : Enumeration String → Enumeration String
  | .done => .done
  | .found s r =>
    if seen.contains s then distinct seen (r ())
    else .found s fun _ => distinct (seen.insert s) (r ())

/-- The distinct spellings of a word, cut free of blanks and in lower case. A blank word has none. -/
def ofWord (word : String) : Enumeration String :=
  match units (Text.lowerText (Text.trim word)).toList with
  | [] => .done
  | us => distinct ∅ ((turns (us.map .ofUnit)).map fun ws => String.ofList (ws.flatMap Wheel.text))

end Initialism.Spelling
