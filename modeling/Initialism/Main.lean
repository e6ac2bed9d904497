import Initialism.CommandLine.Session

/-! The command itself: reads the files that a call needs and prints what it gives. -/
namespace Initialism.CommandLine

def folderCode : UInt32 := 21

/-- A folder opens like a file, and only reading it fails. -/
def unreadable (e : IO.Error) : Except OpenError Contents :=
  match e with
  | .noFileOrDirectory _ _ _ => .error .missing
  | .inappropriateType _ c _ => if c = folderCode then .ok .directory else .error .notDirectory
  | .invalidArgument _ _ _ => .error .nameTooLong
  | e => .error (.refused (toString e))

def readContents (path : String) : IO (Except OpenError Contents) := do
  if path.toList.contains (Char.ofNat 0) then return .error .nulByte
  try return .ok (.bytes (← IO.FS.readBinFile path).toList)
  catch e => return unreadable e

def firstFile? : List String → IO (Option (List UInt8))
  | [] => return none
  | p :: ps => do
    match ← readContents p with
    | .ok (.bytes d) => return some d
    | _ => firstFile? ps

def userFile? : IO (Option (List UInt8)) := do
  let folder? ← do
    match ← IO.getEnv "XDG_CONFIG_HOME" with
    | some d => if d.startsWith "/" then pure (some d) else fallback
    | none => fallback
  match folder? with
  | some d => firstFile? [d ++ "/visie.toml"]
  | none => return none
where
  fallback : IO (Option String) := do return (← IO.getEnv "HOME").map (· ++ "/.config")

def printLines (out : IO.FS.Stream) : Enumeration String → IO Unit
  | .done => return
  | .found l r => do
    out.putStrLn l
    printLines out (r ())

def deliver (o : Outcome) : IO UInt32 := do
  let out ← IO.getStdout
  match o with
  | .lines ls => printLines out ls
  | o => out.putStr o.stdout
  (← IO.getStderr).putStr o.stderr
  return o.code.toUInt32

def run (as : List String) : IO UInt32 := do
  match Request.ofArguments as with
  | .error e => deliver (.usage e)
  | .ok .help => deliver (.answer help)
  | .ok .version => deliver (.answer version)
  | .ok (.run i) =>
    let named? ← firstFile? ((i.config?.map configPaths).getD [])
    match i.prepare (← userFile?) named? with
    | .error o => deliver o
    | .ok (s, p) => deliver (i.report s p (← readContents s.path))

end Initialism.CommandLine

def main (as : List String) : IO UInt32 := Initialism.CommandLine.run as
