/-! Files by name in one folder, and what opening a path from there meets. Every other place is
taken to exist and to hold no files. -/
namespace Initialism

inductive OpenError where
  | missing
  | notDirectory
  | nameTooLong
  | nulByte
  | refused (reason : String)
deriving DecidableEq, Repr

inductive Contents where
  | bytes (data : List UInt8)
  | directory
deriving DecidableEq, Repr

structure Folder where
  files : List (String × List UInt8)

namespace Folder

inductive Place where
  | here
  | elsewhere
  | file (data : List UInt8)

/-- Goes on from a place by one part of a path. An empty part stands between or after slashes. -/
def step (f : Folder) (place : Place) (part : String) : Except OpenError Place :=
  match place with
  | .file _ => .error .notDirectory
  | .here =>
    if part = "" || part = "." then .ok .here
    else if part = ".." then .ok .elsewhere
    else if 255 < part.utf8ByteSize then .error .nameTooLong
    else
      match f.files.lookup part with
      | some d => .ok (.file d)
      | none => .error .missing
  | .elsewhere =>
    if part = "" || part = "." || part = ".." then .ok .elsewhere
    else if 255 < part.utf8ByteSize then .error .nameTooLong
    else .error .missing

def walk (f : Folder) (place : Place) : List String → Except OpenError Place
  | [] => .ok place
  | p :: ps =>
    match f.step place p with
    | .error e => .error e
    | .ok q => walk f q ps

def parts (path : List Char) : List String :=
  match path with
  | [] => [""]
  | '/' :: r => "" :: parts r
  | c :: r =>
    match parts r with
    | [] => [c.toString]
    | p :: ps => (c.toString ++ p) :: ps

def openPath (f : Folder) (path : String) : Except OpenError Contents :=
  if path.toList.contains (Char.ofNat 0) then .error .nulByte
  else if path = "" then .error .missing
  else if 4096 ≤ path.utf8ByteSize then .error .nameTooLong
  else
    match f.walk (if path.toList.head? = some '/' then .elsewhere else .here) (parts path.toList) with
    | .error e => .error e
    | .ok (.file d) => .ok (.bytes d)
    | .ok _ => .ok .directory

end Folder
end Initialism
