import Initialism.Toml.Moment
import Initialism.Toml.Number
import Initialism.Toml.Tree

/-! TOML documents. A document that breaks a rule anywhere has no value. Dates and times are kept
as their text. -/
namespace Initialism.Toml
open Settings

/-- Brackets nest up to here, and so do the parts of a dotted key. -/
def depthLimit : Nat := 79

def isBare (c : Char) : Bool := c.isAlphanum || c = '_' || c = '-'

def dropTrivia (inComment : Bool) : List Char → Option (List Char)
  | [] => some []
  | c :: r =>
    if inComment then
      if c = '\n' then dropTrivia false r else if isPlain c then dropTrivia true r else none
    else if isSpace c || c = '\n' then dropTrivia false r
    else if c = '#' then dropTrivia true r
    else some (c :: r)

def lineEnd (cs : List Char) : Option (List Char) :=
  match cs.dropWhile isSpace with
  | [] => some []
  | '\n' :: r => some r
  | '#' :: r =>
    if (r.takeWhile (· ≠ '\n')).all isPlain then some ((r.dropWhile (· ≠ '\n')).drop 1) else none
  | _ => none

/-- One part of a key. Only texts on one line are keys. -/
def name : Reader String
  | '"' :: r => (basic r).map fun (cs, r) => (String.ofList cs, r)
  | '\'' :: r => (literal r).map fun (cs, r) => (String.ofList cs, r)
  | cs =>
    let k := cs.takeWhile isBare
    if k = [] then none else some (String.ofList k, cs.dropWhile isBare)

/- A part of a key takes at least one character, so the length of the text is enough. -/
def parts : Nat → Reader (List String)
  | 0, _ => none
  | n+1, cs =>
    match name (cs.dropWhile isSpace) with
    | none => none
    | some (k, r) =>
      match r.dropWhile isSpace with
      | '.' :: r => (parts n r).map fun (ks, r) => (k :: ks, r)
      | r => some ([k], r)

def key : Reader (List String) := fun cs =>
  match parts cs.length cs with
  | some (ks, r) => if ks.length ≤ depthLimit then some (ks, r) else none
  | none => none

def items (value : Reader Node) : Nat → Reader (List Node)
  | 0, _ => none
  | n+1, cs =>
    match dropTrivia false cs with
    | some (']' :: r) => some ([], r)
    | none => none
    | some cs =>
      match value cs with
      | none => none
      | some (v, r) =>
        match dropTrivia false r with
        | some (',' :: r) => (items value n r).map fun (vs, r) => (v :: vs, r)
        | some (']' :: r) => some ([v], r)
        | _ => none

def pair (value : Reader Node) : Reader (List String × Node) := fun cs =>
  match key cs with
  | some (ks, '=' :: r) =>
    (value (r.dropWhile isSpace)).map fun (v, r) => ((ks, v), r)
  | _ => none

def pairs (value : Reader Node) : Nat → Reader (List (List String × Node))
  | 0, _ => none
  | n+1, cs =>
    match pair value cs with
    | none => none
    | some (p, r) =>
      match r.dropWhile isSpace with
      | ',' :: r => (pairs value n r).map fun (ps, r) => (p :: ps, r)
      | '}' :: r => some ([p], r)
      | _ => none

def addAll : List (List String × Node) → Fields → Option Fields
  | [], fs => some fs
  | (ks, v) :: ps, fs =>
    match Fields.add true v ks fs with
    | some gs => addAll ps gs
    | none => none

def inline (value : Reader Node) : Reader Node := fun cs =>
  match cs.dropWhile isSpace with
  | '}' :: r => some (.inline [], r)
  | cs =>
    match pairs value cs.length cs with
    | none => none
    | some (ps, r) => (addAll ps []).map fun fs => (.inline fs, r)

def value : Nat → Reader Node
  | depth, cs =>
    match cs with
    | '[' :: r =>
      match depth with
      | 0 => none
      | d+1 => (items (value d) r.length r).map fun (ns, r) => (.array ns, r)
    | '{' :: r =>
      match depth with
      | 0 => none
      | d+1 => inline (value d) r
    | 't' :: 'r' :: 'u' :: 'e' :: r => some (.value (.boolean true), r)
    | 'f' :: 'a' :: 'l' :: 's' :: 'e' :: r => some (.value (.boolean false), r)
    | cs =>
      if cs.head? = some '"' || cs.head? = some '\'' then
        (quoted? cs).map fun (t, r) => (.value (.text (String.ofList t)), r)
      else if startsMoment cs then (moment cs).map fun (t, r) => (.moment (String.ofList t), r)
      else (number cs).map fun (v, r) => (.value v, r)

inductive Statement where
  | table (path : List String)
  | row (path : List String)
  | assign (path : List String) (v : Node)

def statement : Reader Statement
  | '[' :: '[' :: r =>
    match key r with
    | some (ks, ']' :: ']' :: r) => (lineEnd r).map fun r => (.row ks, r)
    | _ => none
  | '[' :: r =>
    match key r with
    | some (ks, ']' :: r) => (lineEnd r).map fun r => (.table ks, r)
    | _ => none
  | cs =>
    match pair (value depthLimit) cs with
    | some ((ks, v), r) => (lineEnd r).map fun r => (.assign ks v, r)
    | none => none

/- A statement takes at least one character, so the length of the text is enough. -/
def statements : Nat → List Char → Option (List Statement)
  | n, cs =>
    match dropTrivia false cs with
    | none => none
    | some [] => some []
    | some cs =>
      match n with
      | 0 => none
      | n+1 =>
        match statement cs with
        | none => none
        | some (s, r) => (statements n r).map (s :: ·)

/-- The document after a statement, and the table that keys are added to from there on. -/
def obey (path : List String) (fs : Fields) : Statement → Option (List String × Fields)
  | .table ks =>
    match ks.getLast? with
    | none => none
    | some k => (Fields.along (Fields.openTable k) ks.dropLast fs).map (ks, ·)
  | .row ks =>
    match ks.getLast? with
    | none => none
    | some k => (Fields.along (Fields.openRow k) ks.dropLast fs).map (ks, ·)
  | .assign ks v => (Fields.along (Fields.add true v ks) path fs).map (path, ·)

def obeyAll (path : List String) (fs : Fields) : List Statement → Option Fields
  | [] => some fs
  | s :: ss =>
    match obey path fs s with
    | some (p, gs) => obeyAll p gs ss
    | none => none

def unifyLineEnds : List Char → List Char
  | '\r' :: '\n' :: r => '\n' :: unifyLineEnds r
  | c :: r => c :: unifyLineEnds r
  | [] => []

/-- A byte order mark may come first. -/
def parse (cs : List Char) : Option Value :=
  let cs := match cs with
    | c :: r => if c.toNat = 0xFEFF then r else c :: r
    | [] => []
  let cs := unifyLineEnds cs
  match (statements cs.length cs).bind (obeyAll [] []) with
  | some fs =>
    match fs.toValue? with
    | some (.table vs) => some (.table vs)
    | _ => none
  | none => none

end Initialism.Toml
