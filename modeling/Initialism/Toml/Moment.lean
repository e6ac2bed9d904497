import Initialism.Toml.Quoted

/-! Dates and times in TOML, in their one normal form. -/
namespace Initialism.Toml

def digits (n : Nat) : Reader Nat := fun cs =>
  let ds := cs.take n
  if ds.length = n && ds.all Char.isDigit then
    some (ds.foldl (fun n d => 10 * n + (d.toNat - 48)) 0, cs.drop n)
  else none

def padded (width n : Nat) : List Char :=
  let ds := Nat.toDigits 10 n
  List.replicate (width - ds.length) '0' ++ ds

def digitsIn (n lo hi : Nat) : Reader (List Char) := fun cs =>
  match digits n cs with
  | some (k, r) => if lo ≤ k && k ≤ hi then some (padded n k, r) else none
  | none => none

def daysOf (year month : Nat) : Nat :=
  if month = 2 then
    if year % 4 = 0 && (year % 100 ≠ 0 || year % 400 = 0) then 29 else 28
  else if month = 4 || month = 6 || month = 9 || month = 11 then 30
  else 31

/-- The date after its year. -/
def date (year : Nat) : Reader (List Char)
  | '-' :: r =>
    match digits 2 r with
    | some (m, '-' :: r) =>
      match digits 2 r with
      | some (d, r) =>
        if 1 ≤ m && m ≤ 12 && 1 ≤ d && d ≤ daysOf year m then
          some (padded 4 year ++ '-' :: padded 2 m ++ '-' :: padded 2 d, r)
        else none
      | none => none
    | _ => none
  | _ => none

/-- A fraction of a second is kept to nine digits, without zeros at its end. -/
def fraction : List Char → List Char × List Char
  | '.' :: r =>
    let ds := r.takeWhile Char.isDigit
    if ds = [] then ([], '.' :: r)
    else
      let kept := ((ds.take 9).reverse.dropWhile (· = '0')).reverse
      (if kept = [] then [] else '.' :: kept, r.dropWhile Char.isDigit)
  | cs => ([], cs)

def time (hour : Nat) : Reader (List Char)
  | ':' :: r =>
    match digitsIn 2 0 59 r with
    | some (m, ':' :: r) =>
      match digitsIn 2 0 60 r with
      | some (s, r) =>
        if hour ≤ 23 then
          let f := fraction r
          some (padded 2 hour ++ ':' :: m ++ ':' :: s ++ f.1, f.2)
        else none
      | none => none
    | _ => none
  | _ => none

def offset : Reader (List Char)
  | 'Z' :: r | 'z' :: r => some (['Z'], r)
  | c :: r =>
    if c = '+' || c = '-' then
      match digitsIn 2 0 23 r with
      | some (h, ':' :: r) =>
        match digitsIn 2 0 59 r with
        | some (m, r) =>
          let zero := h = ['0', '0'] && m = ['0', '0']
          some ((if zero then '+' else c) :: h ++ ':' :: m, r)
        | none => none
      | _ => none
    else some ([], c :: r)
  | [] => some ([], [])

def startsWith (n : Nat) (mark : Char) (cs : List Char) : Bool :=
  match digits n cs with
  | some (_, c :: _) => c = mark
  | _ => false

def timeOfDay : Reader (List Char)
  | c :: r =>
    if (c = 'T' || c = 't' || c = ' ') && startsWith 2 ':' r then
      match digits 2 r with
      | some (h, r) =>
        match time h r with
        | some (t, r) => (offset r).map fun (o, r) => ('T' :: t ++ o, r)
        | none => none
      | none => none
    else some ([], c :: r)
  | [] => some ([], [])

def startsMoment (cs : List Char) : Bool := startsWith 4 '-' cs || startsWith 2 ':' cs

def moment : Reader (List Char) := fun cs =>
  if startsWith 4 '-' cs then
    match digits 4 cs with
    | some (y, r) =>
      match date y r with
      | some (d, r) => (timeOfDay r).map fun (t, r) => (d ++ t, r)
      | none => none
    | none => none
  else
    match digits 2 cs with
    | some (h, r) => time h r
    | none => none

/-- The normal form of a date, a time or both, if the text is one and holds nothing else. -/
def momentOfText? (cs : List Char) : Option (List Char) :=
  match moment cs with
  | some (t, []) => some t
  | _ => none

end Initialism.Toml
