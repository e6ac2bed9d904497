import Initialism.Settings.Value

/-! Dotted keys: a name, then further names after points or positions in brackets. -/
namespace Initialism.Settings

inductive Key.Step where
  | name (k : String)
  | position (i : Int)
deriving DecidableEq, Repr

structure Key where
  root : String
  steps : List Key.Step
deriving DecidableEq, Repr

namespace Key

def isNameChar (c : Char) : Bool := c.isAlphanum || c = ' ' || c = '_' || c = '-'

def blanks : List Char := [' ', '\t']

def position? (cs : List Char) : Option Int :=
  let cs := cs.dropWhile blanks.contains
  let (negative, ds) := match cs with
    | '-' :: r => (true, r)
    | _ => (false, cs)
  let digits := ds.takeWhile Char.isDigit
  if digits = [] || (ds.dropWhile Char.isDigit).any (!blanks.contains ·) then none
  else
    let n : Nat := digits.foldl (fun n d => 10 * n + (d.toNat - 48)) 0
    let i : Int := if negative then -n else n
    if fitsInteger i then some i else none

/- Each step takes at least one character, so the length of the text is enough. -/
def steps? : Nat → List Char → Option (List Step)
  | _, [] => some []
  | 0, _ => none
  | n+1, '.' :: r =>
    let k := r.takeWhile isNameChar
    if k = [] then none
    else (steps? n (r.dropWhile isNameChar)).map (.name (String.ofList k) :: ·)
  | n+1, '[' :: r =>
    match r.dropWhile (· ≠ ']') with
    | ']' :: rest =>
      match position? (r.takeWhile (· ≠ ']')) with
      | some i => (steps? n rest).map (.position i :: ·)
      | none => none
    | _ => none
  | _, _ => none

def parse (s : String) : Option Key :=
  let cs := s.toList
  let k := cs.takeWhile isNameChar
  if k = [] then none
  else (steps? cs.length (cs.dropWhile isNameChar)).map (⟨String.ofList k, ·⟩)

def ofName (s : String) : Key := (parse s).getD ⟨s, []⟩

end Key

namespace Value

/-- Sets an element, with nulls in front of it where there was none. A negative position counts
from the end. -/
def setElement (vs : List Value) (i : Int) (f : Value → Value) : List Value :=
  let i := if i < 0 then i + vs.length else i
  if i < 0 then vs
  else
    let n := i.toNat
    (vs ++ List.replicate (n + 1 - vs.length) null).modify n f

/-- Puts a value at the end of a way down. What stands in the way and is no table, or no list where
a position follows, is replaced by an empty one. -/
def putAlong (v : Value) : List Key.Step → Value → Value
  | [], _ => v
  | [.name k], t => t.put k v
  | .name k :: ks, t =>
    t.set (Text.lowerText k) (putAlong v ks ((t.get? (Text.lowerText k)).getD null))
  | .position i :: ks, t => list (setElement t.elements i (putAlong v ks))

def putKey (t : Value) (k : Key) (v : Value) : Value := putAlong v (.name k.root :: k.steps) t

end Value
end Initialism.Settings
