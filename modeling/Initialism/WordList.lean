import Initialism.Enumeration
import Initialism.Event
import Initialism.Folder
import Initialism.Text.Blank
import Initialism.Text.Utf8

/-! Word lists: one word a line, blanks around it cut off and blank lines passed over. -/
namespace Initialism

/-- The pieces between line feeds; `l` holds the bytes of the line so far, in reverse. A last
piece without bytes is no line. -/
def linesFrom (l : List UInt8) : List UInt8 → Enumeration (List UInt8)
  | [] => if l = [] then .done else .single l.reverse
  | b :: r => if b = 10 then .found l.reverse fun _ => linesFrom [] r else linesFrom (b :: l) r

structure WordList where
  path : String
  /-- What is answered when words are asked for: a word, or the number of a line that cannot be
  read. Nothing at all stands for a directory. -/
  answers? : Option (Enumeration (Except Nat String))

namespace WordList

/-- The answers of lines after `read` others. A line that cannot be read is not counted. -/
def answersAfter (read : Nat) : Enumeration (List UInt8) → Enumeration (Except Nat String)
  | .done => .done
  | .found l r =>
    match Text.decode? l with
    | none => .found (.error (read + 1)) fun _ => answersAfter read (r ())
    | some s =>
      if Text.trim s = "" then answersAfter (read + 1) (r ())
      else .found (.ok (Text.trim s)) fun _ => answersAfter (read + 1) (r ())

def ofBytes (path : String) (data : List UInt8) : WordList :=
  ⟨path, some (answersAfter 0 (linesFrom [] data))⟩

def ofContents (path : String) : Contents → WordList
  | .bytes d => ofBytes path d
  | .directory => ⟨path, none⟩

def next (w : WordList) : (Option String × List Event) × WordList :=
  match w.answers? with
  | none => ((none, [.stoppedReading w.path 1 "Is a directory (os error 21)"]), w)
  | some .done => ((none, []), w)
  | some (.found (.ok s) r) => ((some s, []), { w with answers? := some (r ()) })
  | some (.found (.error n) r) =>
    ((none, [.stoppedReading w.path n "stream did not contain valid UTF-8"]),
      { w with answers? := some (r ()) })

def take : Nat → WordList → List String × List Event
  | 0, _ => ([], [])
  | n+1, w =>
    match w.next with
    | ((none, es), _) => ([], es)
    | ((some s, es), w') =>
      let t := take n w'
      (s :: t.1, es ++ t.2)

def words (w : WordList) : Enumeration String :=
  match w.answers? with
  | none => .done
  | some e => go e
where
  go : Enumeration (Except Nat String) → Enumeration String
    | .found (.ok s) r => .found s fun _ => go (r ())
    | _ => .done

end WordList

namespace OpenError

def reason : OpenError → String
  | missing => "No such file or directory (os error 2)"
  | notDirectory => "Not a directory (os error 20)"
  | nameTooLong => "File name too long (os error 36)"
  | nulByte => "file name contained an unexpected NUL byte"
  | refused r => r

def message (path : String) : OpenError → String
  | missing => path ++ " does not exist!\n\nEnsure that a word list is installed.\n" ++
      "On most Linux distributions, try:\n    `apt-cache search wordlist|grep ^w|sort`\n"
  | e => "Error reading " ++ path ++ ": " ++ e.reason

end OpenError

def Folder.openWordList (f : Folder) (path : String) : Except OpenError (WordList × List Event) :=
  match f.openPath path with
  | .error e => .error e
  | .ok c => .ok (.ofContents path c, [.opened path])

end Initialism
