import Initialism.Settings.Key
import Initialism.Text.Utf8
import Initialism.Toml.Document

/-! The settings of a run: values that are built in, files over them, and single keys over all
files. -/
namespace Initialism

structure Settings where
  minLength : Nat
  useVariants : Bool
  path : String
deriving DecidableEq, Repr

namespace Settings

inductive Error where
  | badKey
  | badFile
  | unreadable
  | wrongType
  | malformed
deriving DecidableEq, Repr

/-- A file that is not there has no data. One that is no text counts as not there. -/
inductive Layer where
  | required (data? : Option (List UInt8))
  | optional (data? : Option (List UInt8))
  | override (key : String) (v : Value)

def defaults : Value := .table [
  ("generate", .table [("min_length", .integer 4), ("use_variants", .boolean false)]),
  ("dictionary", .table [("path", .text "/usr/share/dict/words")])]

/-- The fields of a file; the names at its top may be dotted keys even in quotes. -/
def putFile (t : Value) (file : Value) : Value :=
  file.fields.foldl (fun t (k, v) => t.putKey (.ofName k) v) t

def fileText? (data? : Option (List UInt8)) : Option String := data?.bind Text.decode?

def readFile (text : String) : Except Error Value :=
  match Toml.parse text.toList with
  | some v => .ok v
  | none => .error .badFile

/-- The overrides, in order. A key that is none is an error whatever the files hold. -/
def overrides : List Layer → Except Error (List (Key × Value))
  | [] => .ok []
  | .override k v :: ls =>
    match Key.parse k with
    | none => .error .badKey
    | some k => (overrides ls).map ((k, v) :: ·)
  | _ :: ls => overrides ls

def Layer.text? : Layer → Except Error (Option String)
  | required d =>
    match fileText? d with
    | some s => .ok (some s)
    | none => .error .unreadable
  | optional d => .ok (fileText? d)
  | override _ _ => .ok none

def putFiles (t : Value) : List Layer → Except Error Value
  | [] => .ok t
  | l :: ls =>
    match l.text? with
    | .error e => .error e
    | .ok none => putFiles t ls
    | .ok (some s) =>
      match readFile s with
      | .error e => .error e
      | .ok v => putFiles (putFile t v) ls

def putOverrides (t : Value) (os : List (Key × Value)) : Value :=
  os.foldl (fun t (k, v) => t.putKey k v) t

def section? (names : List String) : Value → Option (List (Option Value))
  | .table fs => some (names.map (fs.lookup ·))
  | .list vs => some ((List.range names.length).map (vs[·]?))
  | _ => none

def typed (read : Value → Option α) : Option Value → Except Error (Option α)
  | none => .ok none
  | some v =>
    match read v with
    | some a => .ok (some a)
    | none => .error .wrongType

def required : Option α → Except Error α
  | some a => .ok a
  | none => .error .malformed

def generateOf (v : Value) : Except Error (Nat × Bool) :=
  match section? ["min_length", "use_variants"] v with
  | some [m, u] => do
    let m ← typed Value.toNat? m
    let u ← typed Value.toBool? u
    return (← required m, ← required u)
  | _ => .error .malformed

def dictionaryOf (v : Value) : Except Error String :=
  match section? ["path"] v with
  | some [p] => do required (← typed Value.toText? p)
  | _ => .error .malformed

def ofValue (v : Value) : Except Error Settings := do
  let (m, u) ← generateOf ((v.get? "generate").getD .null)
  let p ← dictionaryOf ((v.get? "dictionary").getD .null)
  return ⟨m, u, p⟩

def merged (layers : List Layer) : Except Error Value := do
  let os ← overrides layers
  let t ← putFiles defaults layers
  return putOverrides t os

def load (layers : List Layer) : Except Error Settings := do ofValue (← merged layers)

end Settings
end Initialism
