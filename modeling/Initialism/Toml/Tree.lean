import Initialism.Settings.Value
import Initialism.Toml.Moment

/-! A TOML document in the making. A table remembers how it came to be, since this decides whether
it may be opened again, and whether dotted keys may add to it. -/
namespace Initialism.Toml
open Settings

inductive Origin where
  | header
  /-- on the way to a table that a header names -/
  | implied
  | dotted
deriving DecidableEq, Repr

inductive Node where
  | value (v : Value)
  | moment (s : String)
  | array (items : List Node)
  | inline (fields : List (String × Node))
  | table (origin : Origin) (fields : List (String × Node))
  /-- an array of tables; headers below it mean its last one -/
  | rows (tables : List (List (String × Node)))

abbrev Fields := List (String × Node)

/-- A table that starts with this name stands for the date that is its text. -/
def momentName : String := "$__toml_private_datetime"

namespace Fields

def set (k : String) (n : Node) : Fields → Fields
  | [] => [(k, n)]
  | (l, m) :: fs => if l = k then (k, n) :: fs else (l, m) :: set k n fs

def erase (k : String) (fs : Fields) : Fields := fs.filter fun f => f.1 != k

/-- Adds a value at a dotted key. `direct` says whether a single name may be added here. -/
def add (direct : Bool) (v : Node) : List String → Fields → Option Fields
  | [], _ => none
  | [k], fs => if direct && (fs.lookup k).isNone then some (fs ++ [(k, v)]) else none
  | k :: ks, fs =>
    match fs.lookup k with
    | none => (add true v ks []).map fun gs => fs ++ [(k, .table .dotted gs)]
    | some (.table o gs) =>
      if o = .header then none
      else (add (o = .dotted) v ks gs).map fun gs => set k (.table o gs) fs
    | some (.rows ts) =>
      match ts.getLast? with
      | none => none
      | some gs => (add false v ks gs).map fun gs => set k (.rows (ts.dropLast ++ [gs])) fs
    | some (.value _) | some (.moment _) | some (.array _) | some (.inline _) => none

def along (f : Fields → Option Fields) : List String → Fields → Option Fields
  | [], fs => f fs
  | k :: ks, fs =>
    match fs.lookup k with
    | none => (along f ks []).map fun gs => fs ++ [(k, .table .implied gs)]
    | some (.table o gs) => (along f ks gs).map fun gs => set k (.table o gs) fs
    | some (.rows ts) =>
      match ts.getLast? with
      | none => none
      | some gs => (along f ks gs).map fun gs => set k (.rows (ts.dropLast ++ [gs])) fs
    | some (.value _) | some (.moment _) | some (.array _) | some (.inline _) => none

/-- Opens a table. One that is only implied so far becomes a full one, behind the others. -/
def openTable (k : String) (fs : Fields) : Option Fields :=
  match fs.lookup k with
  | none => some (fs ++ [(k, .table .header [])])
  | some (.table .implied gs) => some (erase k fs ++ [(k, .table .header gs)])
  | _ => none

def openRow (k : String) (fs : Fields) : Option Fields :=
  match fs.lookup k with
  | none => some (fs ++ [(k, .rows [[]])])
  | some (.rows ts) => some (set k (.rows (ts ++ [[]])) fs)
  | _ => none

def tableValue? (values? : Option (List (String × Value))) : Fields → Option Value
  | (k, n) :: _ =>
    if k = momentName then
      match n with
      | .value (.text s) => (momentOfText? s.toList).map fun t => .text (String.ofList t)
      | _ => none
    else values?.map .table
  | [] => values?.map .table

mutual
def nodeValue? : Node → Option Value
  | .value v => some v
  | .moment s => some (.text s)
  | .array ns => (itemValues? ns).map .list
  | .inline fs | .table _ fs => tableValue? (fieldValues? fs) fs
  | .rows ts => (rowValues? ts).map .list
termination_by structural n => n
def itemValues? : List Node → Option (List Value)
  | [] => some []
  | n :: ns =>
    match nodeValue? n, itemValues? ns with
    | some v, some vs => some (v :: vs)
    | _, _ => none
termination_by structural ns => ns
def fieldValues? : List (String × Node) → Option (List (String × Value))
  | [] => some []
  | (k, n) :: fs =>
    match nodeValue? n, fieldValues? fs with
    | some v, some vs => some ((k, v) :: vs)
    | _, _ => none
termination_by structural fs => fs
def rowValues? : List (List (String × Node)) → Option (List Value)
  | [] => some []
  | fs :: ts =>
    match tableValue? (fieldValues? fs) fs, rowValues? ts with
    | some v, some vs => some (v :: vs)
    | _, _ => none
termination_by structural ts => ts
end

def toValue? (fs : Fields) : Option Value := tableValue? (fieldValues? fs) fs

end Fields
end Initialism.Toml
