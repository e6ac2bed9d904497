import Initialism.Match.Basic

/-! Acronyms as one line of JSON, without blanks. -/
namespace Initialism
namespace Text

def fourDigits (c : Char) : List Char :=
  let ds := Nat.toDigits 16 c.toNat
  '\\' :: 'u' :: (List.replicate (4 - ds.length) '0' ++ ds)

/-- Quotes, backslashes and controls below the space are escaped; all else stands for itself. -/
def jsonChar (c : Char) : List Char :=
  if c = '"' then ['\\', '"']
  else if c = '\\' then ['\\', '\\']
  else if c.toNat = 8 then ['\\', 'b']
  else if c.toNat = 12 then ['\\', 'f']
  else if c = '\n' then ['\\', 'n']
  else if c = '\r' then ['\\', 'r']
  else if c = '\t' then ['\\', 't']
  else if c.toNat < 32 then fourDigits c
  else [c]

def jsonString (s : String) : String := String.ofList ('"' :: (s.toList.flatMap jsonChar ++ ['"']))

end Text

def Acronym.json (a : Acronym) : String :=
  "\x7b\"name\":" ++ Text.jsonString a.name ++ ",\"items\":[" ++
    ",".intercalate (a.items.map Text.jsonString) ++ "]\x7d"

end Initialism
