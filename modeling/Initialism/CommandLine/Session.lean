import Initialism.CommandLine.Help
import Initialism.CommandLine.Request
import Initialism.Run
import Initialism.Settings.Basic
import Initialism.Spelling
import Initialism.Text.Json
import Initialism.WordList

/-! What a call of the command does: settings first, then the constraints, then the word list, and
last the acronyms, one a line. The first step that fails ends the call. -/
namespace Initialism
namespace CommandLine

inductive Outcome where
  | usage (e : UsageError)
  | answer (text : String)
  | badSettings (e : Settings.Error)
  | badConstraint (source : String) (f : Fault)
  | noWordList (path : String) (e : OpenError)
  | lines (ls : Enumeration String)

namespace Outcome

def code : Outcome → Nat
  | usage _ => 2
  | answer _ | lines _ => 0
  | badSettings _ | badConstraint _ _ | noWordList _ _ => 1

def stdout : Outcome → String
  | answer t => t
  | lines ls => String.join (ls.toList.map (· ++ "\n"))
  | _ => ""

/-- Why settings are refused is not part of the message. -/
def stderr : Outcome → String
  | usage e => e.message ++ "\n"
  | badSettings _ => "Configuration error: "
  | badConstraint s f => f.message s ++ "\n"
  | noWordList p e => e.message p
  | answer _ | lines _ => ""

end Outcome

namespace Invocation

/-- A number as it is kept in 64 bits with a sign: the upper half of its range is negative. -/
def wrapped (n : Nat) : Int := (n : Int).bmod UInt64.size

def layers (i : Invocation) (user? : Option (List UInt8)) (named? : Option (List UInt8)) :
    List Settings.Layer :=
  [.optional user?] ++ (i.config?.map fun _ => Settings.Layer.required named?).toList ++
    (i.minLength?.map fun n =>
      Settings.Layer.override "generate.min_length" (.integer (wrapped n))).toList ++
    (if i.useVariants then [.override "generate.use_variants" (.boolean true)] else []) ++
    (i.dictionary?.map fun p => Settings.Layer.override "dictionary.path" (.text p)).toList

def patterns : List String → Except (String × Fault) (List Pattern)
  | [] => .ok []
  | s :: ss =>
    match Pattern.parse s with
    | .error f => .error (s, f)
    | .ok p => (patterns ss).map (p :: ·)

def combined : List Pattern → Pattern
  | [p] => p
  | ps => .group .anySubset ps

def pattern (i : Invocation) : Except (String × Fault) Pattern :=
  (patterns i.constraints).map combined

def prepare (i : Invocation) (user? named? : Option (List UInt8)) :
    Except Outcome (Settings × Pattern) :=
  match Settings.load (i.layers user? named?) with
  | .error e => .error (.badSettings e)
  | .ok s =>
    match i.pattern with
    | .error (c, f) => .error (.badConstraint c f)
    | .ok p => .ok (s, p)

def line (i : Invocation) (a : Acronym) : String :=
  match i.format? with
  | some .json => a.json
  | _ => a.text

end Invocation

def candidates (s : Settings) (w : WordList) : Enumeration String :=
  if s.useVariants then w.words.flatMap Spelling.ofWord else w.words

def acronyms (s : Settings) (p : Pattern) (w : WordList) : Enumeration Acronym :=
  ((Run.ofAnswers p fun _ => (candidates s w).map some).atLeast s.minLength).acronyms

def Invocation.report (i : Invocation) (s : Settings) (p : Pattern)
    (opened : Except OpenError Contents) : Outcome :=
  match opened with
  | .error e => .noWordList s.path e
  | .ok c => .lines ((acronyms s p (.ofContents s.path c)).map i.line)

/-- The other path a settings file may have: `.toml` is added to the last name, and slashes and
single dots after it are left out. -/
def tomlPath? (path : String) : Option String :=
  match (Folder.parts path.toList).reverse.dropWhile (fun p => p = "" || p = ".") with
  | [] => none
  | p :: ps =>
    if p = ".." then none else some ("/".intercalate ((p ++ ".toml") :: ps).reverse)

def configPaths (path : String) : List String := path :: (tomlPath? path).toList

end CommandLine

def Folder.findFile? (f : Folder) (paths : List String) : Option (List UInt8) :=
  paths.findSome? fun p =>
    match f.openPath p with
    | .ok (.bytes d) => some d
    | _ => none

namespace CommandLine

def perform (here : Folder) (user? : Option (List UInt8)) (as : List String) : Outcome :=
  match Request.ofArguments as with
  | .error e => .usage e
  | .ok .help => .answer help
  | .ok .version => .answer version
  | .ok (.run i) =>
    match i.prepare user? (i.config?.bind fun p => here.findFile? (configPaths p)) with
    | .error o => o
    | .ok (s, p) => i.report s p (here.openPath s.path)

end CommandLine
end Initialism
