/-! A word's letters from some position on. Narrowing a view moves its start and keeps the word,
so views of one word share it, however far they have been narrowed. -/
namespace Initialism

structure Letters where
  word : Array Char
  start : Nat
  start_le : start ≤ word.size

namespace Letters

def ofList (cs : List Char) : Letters := ⟨cs.toArray, 0, Nat.zero_le _⟩
def ofString (s : String) : Letters := ofList s.toList

def toList (v : Letters) : List Char := v.word.toList.drop v.start
def text (v : Letters) : String := String.ofList v.toList

def length (v : Letters) : Nat := v.word.size - v.start
def isEmpty (v : Letters) : Bool := v.length == 0

def split? (v : Letters) : Option (Char × Letters) :=
  if h : v.start < v.word.size then some (v.word[v.start], ⟨v.word, v.start+1, h⟩) else none

/-- The view past the first `n` letters, or past all of them. -/
def drop : Nat → Letters → Letters
  | 0, v => v
  | n+1, v =>
    match v.split? with
    | none => v
    | some (_, r) => drop n r

/- Views are compared by what remains of them, not by the words they look at. -/
instance : BEq Letters := ⟨fun v w => v.toList == w.toList⟩

theorem beq_iff (v w : Letters) : (v == w) = true ↔ v.toList = w.toList := by
  show (v.toList == w.toList) = true ↔ _
  simp

@[simp] theorem toList_ofList (cs : List Char) : (ofList cs).toList = cs := by
  simp [ofList, toList]

@[simp] theorem length_toList (v : Letters) : v.toList.length = v.length := by
  simp [toList, length]

theorem isEmpty_iff (v : Letters) : v.isEmpty = true ↔ v.toList = [] := by
  rw [← List.length_eq_zero_iff, length_toList]
  simp [isEmpty]

theorem split?_eq_none (v : Letters) : v.split? = none ↔ v.toList = [] := by
  simp [split?, toList]

theorem toList_of_split? {v r : Letters} {c : Char} (h : v.split? = some (c, r)) :
    v.toList = c :: r.toList := by
  rw [split?] at h
  split at h
  · next hv =>
    simp only [Option.some.injEq, Prod.mk.injEq] at h
    obtain ⟨rfl, rfl⟩ := h
    have hl : v.start < v.word.toList.length := by simpa using hv
    simpa [toList] using List.drop_eq_getElem_cons hl
  · exact absurd h (by simp)

@[simp] theorem toList_drop (n : Nat) (v : Letters) : (drop n v).toList = v.toList.drop n := by
  induction n generalizing v with
  | zero => simp [drop]
  | succ n ih =>
    rw [drop]
    split
    · next h => simp [(split?_eq_none v).1 h]
    · next h => rw [ih, toList_of_split? h, List.drop_succ_cons]

end Letters
end Initialism
