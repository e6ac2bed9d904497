/-! Quoted text in TOML: on one line or on several, with escapes or without. All readers take a
text in which line ends are single line feeds, and give what they read and what is left. -/
namespace Initialism.Toml

abbrev Reader (α : Type) := List Char → Option (α × List Char)

def isSpace (c : Char) : Bool := c = ' ' || c = '\t'

/-- Controls other than the tab stand nowhere in a document. -/
def isPlain (c : Char) : Bool := c = '\t' || (32 ≤ c.toNat && c.toNat ≠ 127)

def hexValue? (c : Char) : Option Nat :=
  if c.isDigit then some (c.toNat - 48)
  else if 'a' ≤ c && c ≤ 'f' then some (c.toNat - 87)
  else if 'A' ≤ c && c ≤ 'F' then some (c.toNat - 55)
  else none

def scalar? (ds : List Char) : Option Char :=
  match ds.mapM hexValue? with
  | none => none
  | some ns =>
    let n := ns.foldl (fun n d => 16 * n + d) 0
    if n.isValidChar then some (Char.ofNat n) else none

def escape? : Char → Option Char
  | 'b' => some (Char.ofNat 8)
  | 't' => some '\t'
  | 'n' => some '\n'
  | 'f' => some (Char.ofNat 12)
  | 'r' => some '\r'
  | '"' => some '"'
  | '\\' => some '\\'
  | _ => none

def push (c : Option Char) (r : Option (List Char × List Char)) :
    Option (List Char × List Char) :=
  match c, r with
  | some c, some (cs, rest) => some (c :: cs, rest)
  | _, _ => none

def basic : Reader (List Char)
  | [] => none
  | '"' :: r => some ([], r)
  | '\\' :: 'u' :: a :: b :: c :: d :: r => push (scalar? [a, b, c, d]) (basic r)
  | '\\' :: 'U' :: a :: b :: c :: d :: e :: f :: g :: h :: r =>
    push (scalar? [a, b, c, d, e, f, g, h]) (basic r)
  | '\\' :: e :: r => push (escape? e) (basic r)
  | c :: r => if isPlain c then push (some c) (basic r) else none

def literal : Reader (List Char)
  | [] => none
  | '\'' :: r => some ([], r)
  | c :: r => if isPlain c then push (some c) (literal r) else none

/-- After the three quotes that end a text, up to two more belong to it. -/
def quotesAtEnd (mark : Char) : List Char → List Char × List Char
  | a :: b :: r =>
    if a = mark && b = mark then ([a, b], r) else if a = mark then ([a], b :: r) else ([], a :: b :: r)
  | [a] => if a = mark then ([a], []) else ([], [a])
  | [] => ([], [])

/-- The rest of a text with escapes, on several lines. A backslash at the end of a line passes over
all blanks that follow it; meanwhile `passing` holds. -/
def basicLines (passing : Bool) : Reader (List Char)
  | [] => none
  | '"' :: '"' :: '"' :: r => some (quotesAtEnd '"' r)
  | '\\' :: 'u' :: a :: b :: c :: d :: r => push (scalar? [a, b, c, d]) (basicLines false r)
  | '\\' :: 'U' :: a :: b :: c :: d :: e :: f :: g :: h :: r =>
    push (scalar? [a, b, c, d, e, f, g, h]) (basicLines false r)
  | '\\' :: e :: r =>
    if isSpace e || e = '\n' then
      if ((e :: r).dropWhile isSpace).head? = some '\n' then basicLines true r else none
    else push (escape? e) (basicLines false r)
  | c :: r =>
    if passing && (isSpace c || c = '\n') then basicLines true r
    else if isPlain c || c = '\n' then push (some c) (basicLines false r)
    else none

def literalLines : Reader (List Char)
  | [] => none
  | '\'' :: '\'' :: '\'' :: r => some (quotesAtEnd '\'' r)
  | c :: r => if isPlain c || c = '\n' then push (some c) (literalLines r) else none

/-- A line feed right after the opening quotes is not part of the text. -/
def dropLineFeed : List Char → List Char
  | '\n' :: r => r
  | cs => cs

def quoted? : List Char → Option (List Char × List Char)
  | '"' :: '"' :: '"' :: r => basicLines false (dropLineFeed r)
  | '"' :: r => basic r
  | '\'' :: '\'' :: '\'' :: r => literalLines (dropLineFeed r)
  | '\'' :: r => literal r
  | _ => none

end Initialism.Toml
