import Initialism.Settings.Value

/-! Command-line arguments. They are read from left to right; the first that cannot be understood
ends the reading, and so does the first that asks for help or for the version. -/
namespace Initialism.CommandLine

inductive Format where
  | text | json
deriving DecidableEq, Repr

inductive Flag where
  | useVariants | help | version
deriving DecidableEq, Repr

inductive Setting where
  | minLength | dictionary | config | format
deriving DecidableEq, Repr

inductive Switch where
  | flag (f : Flag)
  | setting (s : Setting)
deriving DecidableEq, Repr

def Switch.ofLetter? : Char → Option Switch
  | 'u' => some (.flag .useVariants)
  | 'h' => some (.flag .help)
  | 'V' => some (.flag .version)
  | 'm' => some (.setting .minLength)
  | 'd' => some (.setting .dictionary)
  | 'c' => some (.setting .config)
  | 'f' => some (.setting .format)
  | _ => none

def Switch.ofName? : String → Option Switch
  | "use-variants" => some (.flag .useVariants)
  | "help" => some (.flag .help)
  | "version" => some (.flag .version)
  | "min-length" => some (.setting .minLength)
  | "dict" => some (.setting .dictionary)
  | "config" => some (.setting .config)
  | "format" => some (.setting .format)
  | _ => none

inductive UsageError where
  | unknown (argument : String)
  | repeated (argument : String)
  | missingValue (argument : String)
  | badValue (argument value : String)
  | needlessValue (argument : String)
  | missingConstraint
deriving DecidableEq, Repr

/-- What the arguments ask for. Constraints stand in the order they are given. -/
structure Invocation where
  constraints : List String
  useVariants : Bool
  minLength? : Option Nat
  dictionary? : Option String
  config? : Option String
  format? : Option Format
deriving DecidableEq, Repr

inductive Request where
  | help
  | version
  | run (i : Invocation)
deriving DecidableEq, Repr

namespace Invocation

def empty : Invocation := ⟨[], false, none, none, none, none⟩

def addConstraints (i : Invocation) (cs : List String) : Invocation :=
  { i with constraints := i.constraints ++ cs }

def give (i : Invocation) (argument : String) (s : Setting) (v : String) :
    Except UsageError Invocation :=
  match s with
  | .minLength =>
    if i.minLength?.isSome then .error (.repeated argument)
    else
      match Settings.Value.natOfText v with
      | some n => .ok { i with minLength? := some n }
      | none => .error (.badValue argument v)
  | .dictionary =>
    if i.dictionary?.isSome then .error (.repeated argument)
    else if v = "" then .error (.missingValue argument)
    else .ok { i with dictionary? := some v }
  | .config =>
    if i.config?.isSome then .error (.repeated argument)
    else if v = "" then .error (.missingValue argument)
    else .ok { i with config? := some v }
  | .format =>
    if i.format?.isSome then .error (.repeated argument)
    else if v = "text" then .ok { i with format? := some .text }
    else if v = "json" then .ok { i with format? := some .json }
    else .error (.badValue argument v)

end Invocation

inductive Progress where
  | ready (i : Invocation)
  | waiting (i : Invocation) (argument : String) (s : Setting)
  | answered (r : Request)

def raise (i : Invocation) (argument : String) : Flag → Except UsageError Progress
  | .useVariants =>
    if i.useVariants then .error (.repeated argument) else .ok (.ready { i with useVariants := true })
  | .help => .ok (.answered .help)
  | .version => .ok (.answered .version)

def longSwitch (i : Invocation) (argument : String) (cs : List Char) :
    Except UsageError Progress :=
  let value? := match cs.dropWhile (· ≠ '=') with
    | _ :: v => some (String.ofList v)
    | [] => none
  match Switch.ofName? (String.ofList (cs.takeWhile (· ≠ '='))), value? with
  | none, _ => .error (.unknown argument)
  | some (.flag f), none => raise i argument f
  | some (.flag _), some _ => .error (.needlessValue argument)
  | some (.setting s), none => .ok (.waiting i argument s)
  | some (.setting s), some v => (i.give argument s v).map .ready

/-- Letters after one dash. A setting takes the letters after it as its value, if there are any. -/
def shortSwitches (i : Invocation) (argument : String) : List Char → Except UsageError Progress
  | [] => .ok (.ready i)
  | c :: cs =>
    match Switch.ofLetter? c with
    | none => .error (.unknown argument)
    | some (.flag f) =>
      match raise i argument f with
      | .ok (.ready j) => shortSwitches j argument cs
      | other => other
    | some (.setting s) =>
      match cs with
      | [] => .ok (.waiting i argument s)
      | '=' :: v => (i.give argument s (String.ofList v)).map .ready
      | v => (i.give argument s (String.ofList v)).map .ready

def argument (i : Invocation) (a : String) : Except UsageError Progress :=
  match a.toList with
  | '-' :: '-' :: cs => longSwitch i a cs
  | '-' :: c :: cs => shortSwitches i a (c :: cs)
  | _ => .ok (.ready (i.addConstraints [a]))

/-- Whether an argument can only be a switch. A single dash is a value. -/
def isSwitch (a : String) : Bool :=
  match a.toList with
  | '-' :: _ :: _ => true
  | _ => false

def finish (i : Invocation) : Except UsageError Request :=
  if i.constraints = [] then .error .missingConstraint else .ok (.run i)

def readFrom (i : Invocation) : List String → Except UsageError Request
  | [] => finish i
  | a :: as =>
    if a = "--" then finish (i.addConstraints as)
    else
      match argument i a with
      | .error e => .error e
      | .ok (.answered r) => .ok r
      | .ok (.ready j) => readFrom j as
      | .ok (.waiting j arg s) =>
        match as with
        | [] => .error (.missingValue arg)
        | v :: rest =>
          if isSwitch v then .error (.missingValue arg)
          else
            match j.give arg s v with
            | .error e => .error e
            | .ok j => readFrom j rest

def Request.ofArguments (as : List String) : Except UsageError Request := readFrom .empty as

def UsageError.message : UsageError → String
  | unknown a => "error: unexpected argument '" ++ a ++ "' found"
  | repeated a => "error: the argument '" ++ a ++ "' cannot be used multiple times"
  | missingValue a => "error: a value is required for '" ++ a ++ "' but none was supplied"
  | badValue a v => "error: invalid value '" ++ v ++ "' for '" ++ a ++ "'"
  | needlessValue a => "error: unexpected value in '" ++ a ++ "'"
  | missingConstraint => "error: the following required arguments were not provided:\n  <CONSTRAINT>..."

end Initialism.CommandLine
