import Initialism.Settings.Value
import Initialism.Toml.Quoted

/-! Numbers in TOML. -/
namespace Initialism.Toml
open Settings

/-- The digits of a run in which single underscores may stand between digits. An underscore that
has no digit after it spoils the number. -/
def run (isDigit : Char → Bool) : Reader (List Char)
  | [] => some ([], [])
  | '_' :: d :: r => if isDigit d then push (some d) (run isDigit r) else none
  | c :: r =>
    if isDigit c then push (some c) (run isDigit r)
    else if c = '_' then none
    else some ([], c :: r)

def digitRun (isDigit : Char → Bool) : Reader (List Char)
  | c :: r => if isDigit c then run isDigit (c :: r) else none
  | [] => none

def valueIn (base : Nat) (ds : List Char) : Nat :=
  ds.foldl (fun n d => base * n + (hexValue? d).getD 0) 0

def based (base : Nat) (isDigit : Char → Bool) : Reader Value := fun cs =>
  match digitRun isDigit cs with
  | some (ds, r) =>
    let n := valueIn base ds
    if Settings.fitsInteger n then some (.integer n, r) else none
  | none => none

def sign : List Char → Bool × List Char
  | '+' :: r => (false, r)
  | '-' :: r => (true, r)
  | cs => (false, cs)

def integral : Reader (List Char)
  | '0' :: r => some (['0'], r)
  | cs => digitRun Char.isDigit cs

def decimals : Reader (Option (List Char))
  | '.' :: r => (digitRun Char.isDigit r).map fun (ds, r) => (some ds, r)
  | cs => some (none, cs)

def exponent : Reader (Option Int)
  | c :: r =>
    if c = 'e' || c = 'E' then
      let (negative, r) := sign r
      (digitRun Char.isDigit r).map fun (ds, r) =>
        (some (if negative then -(valueIn 10 ds : Int) else valueIn 10 ds), r)
    else some (none, c :: r)
  | [] => some (none, [])

def negated (negative : Bool) (x : Float) : Float := if negative then -x else x

/-- A finite numeral must not be too large for a double; one too small for it is let through. -/
def floating (negative : Bool) (ds : List Char) (e : Int) : Option Value :=
  let x := negated negative (floatOfDecimal (valueIn 10 ds) e)
  if Double.ofFloat x = .infinite false then none else some (.float x)

def unsigned (negative : Bool) : Reader Value
  | 'i' :: 'n' :: 'f' :: r => some (.float (negated negative (1 / 0)), r)
  | 'n' :: 'a' :: 'n' :: r => some (.float (negated negative (0 / 0)), r)
  | cs =>
    match integral cs with
    | none => none
    | some (is, r) =>
      match decimals r with
      | none => none
      | some (fs, r) =>
        match exponent r with
        | none => none
        | some (none, r) =>
          match fs with
          | some fs => (floating negative (is ++ fs) (-fs.length)).map (·, r)
          | none =>
            let n : Int := if negative then -(valueIn 10 is : Int) else valueIn 10 is
            if Settings.fitsInteger n then some (.integer n, r) else none
        | some (some e, r) =>
          let fs := fs.getD []
          (floating negative (is ++ fs) (e - fs.length)).map (·, r)

def isHexDigit (c : Char) : Bool := (hexValue? c).isSome
def isOctalDigit (c : Char) : Bool := '0' ≤ c && c ≤ '7'
def isBinaryDigit (c : Char) : Bool := c = '0' || c = '1'

def number : Reader Value
  | '0' :: 'x' :: r => based 16 isHexDigit r
  | '0' :: 'o' :: r => based 8 isOctalDigit r
  | '0' :: 'b' :: r => based 2 isBinaryDigit r
  | cs =>
    let (negative, r) := sign cs
    unsigned negative r

end Initialism.Toml
