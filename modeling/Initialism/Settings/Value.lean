import Initialism.Settings.Number
import Initialism.Text.Case

/-! Values of settings before they are read as what they should be, and putting one value into
another. Names are kept in lower case, so they are matched without regard to it. -/
namespace Initialism.Settings

inductive Value where
  | null
  | boolean (b : Bool)
  | integer (n : Int)
  | float (x : Float)
  | text (s : String)
  | list (vs : List Value)
  | table (fields : List (String × Value))

/-- Integers of settings have 64 bits and a sign. -/
def fitsInteger (n : Int) : Bool := Int64.minValue.toInt ≤ n && n ≤ Int64.maxValue.toInt

namespace Value

def empty : Value := table []

def fields : Value → List (String × Value)
  | table fs => fs
  | _ => []

def elements : Value → List Value
  | list vs => vs
  | _ => []

def get? (v : Value) (k : String) : Option Value := v.fields.lookup k

def setField (k : String) (v : Value) : List (String × Value) → List (String × Value)
  | [] => [(k, v)]
  | (l, w) :: fs => if l = k then (k, v) :: fs else (l, w) :: setField k v fs

def set (t : Value) (k : String) (v : Value) : Value := table (setField k v t.fields)

mutual
/-- Puts a value at a name. A table is put in field by field, so that fields it does not have
stay as they are; any other value takes the place of what was there. -/
def put (t : Value) (k : String) : Value → Value
  | table fs => t.set (Text.lowerText k) (putAll ((t.get? (Text.lowerText k)).getD empty) fs)
  | v => t.set (Text.lowerText k) v
def putAll (t : Value) : List (String × Value) → Value
  | [] => t
  | (k, v) :: fs => putAll (t.put k v) fs
end

@[simp] theorem lookup_setField_self (k : String) (v : Value) (fs : List (String × Value)) :
    (setField k v fs).lookup k = some v := by
  induction fs with
  | nil => simp [setField]
  | cons f fs ih =>
    obtain ⟨l, w⟩ := f
    by_cases h : l = k
    · simp [setField, h]
    · simp [setField, h, List.lookup_cons, ih, beq_eq_false_iff_ne.2 (Ne.symm h)]

theorem lookup_setField_of_ne {k l : String} (h : l ≠ k) (v : Value)
    (fs : List (String × Value)) : (setField k v fs).lookup l = fs.lookup l := by
  induction fs with
  | nil => simp [setField, List.lookup_cons, beq_eq_false_iff_ne.2 h]
  | cons f fs ih =>
    obtain ⟨m, w⟩ := f
    by_cases hm : m = k
    · simp [setField, hm, List.lookup_cons, beq_eq_false_iff_ne.2 h]
    · simp [setField, hm, List.lookup_cons, ih]

@[simp] theorem get?_set_self (t : Value) (k : String) (v : Value) :
    (t.set k v).get? k = some v := by
  simp [set, get?, fields]

theorem get?_set_of_ne {k l : String} (h : l ≠ k) (t v : Value) :
    (t.set k v).get? l = t.get? l := by
  simp [set, get?, fields, lookup_setField_of_ne h]

/-- An unsigned numeral below `2 ^ 64`, with or without a plus sign. -/
def natOfText (s : String) : Option Nat :=
  let ds := match s.toList with
    | '+' :: r => r
    | cs => cs
  if ds ≠ [] && ds.all Char.isDigit then
    let n := ds.foldl (fun n d => 10 * n + (d.toNat - 48)) 0
    if n < UInt64.size then some n else none
  else none

def truthOfText (s : String) : Option Bool :=
  let t := Text.lowerText s
  if t = "true" || t = "on" || t = "yes" then some true
  else if t = "false" || t = "off" || t = "no" then some false
  else none

def toNat? : Value → Option Nat
  | boolean b => some b.toNat
  | integer n => if 0 ≤ n && n < UInt64.size then some n.toNat else none
  | float x =>
    match (Double.ofFloat x).round with
    | some n => some (min n (UInt64.size - 1))
    | none => some (UInt64.size - 1)
  | text s =>
    match truthOfText s with
    | some b => some b.toNat
    | none => natOfText s
  | null | list _ | table _ => none

def toBool? : Value → Option Bool
  | boolean b => some b
  | integer n => some (n != 0)
  | float x =>
    match Double.ofFloat x with
    | .finite _ m _ => some (m != 0)
    | _ => some true
  | text s => if s = "1" then some true else if s = "0" then some false else truthOfText s
  | null | list _ | table _ => none

def toText? : Value → Option String
  | boolean b => some (if b then "true" else "false")
  | integer n => some (toString n)
  | float x => some (String.ofList (Double.ofFloat x).chars)
  | text s => some s
  | null | list _ | table _ => none

end Value
end Initialism.Settings
