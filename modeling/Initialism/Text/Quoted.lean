import Initialism.Text.Table.Glyph

/-! Characters and texts as they are quoted in diagnostics: every character is shown so that it
can be told apart. -/
namespace Initialism.Text

def hexDigits (n : Nat) : String := String.ofList (Nat.toDigits 16 n)

def codePoint (c : Char) : String := "\\u\x7b" ++ hexDigits c.toNat ++ "\x7d"

def isHidden (c : Char) : Bool := inRanges hiddenRanges c.toNat
def isExtender (c : Char) : Bool := inRanges extenderRanges c.toNat

def quotedBy (mark c : Char) : String :=
  if c = Char.ofNat 0 then "\\0"
  else if c = '\t' then "\\t"
  else if c = '\r' then "\\r"
  else if c = '\n' then "\\n"
  else if c = mark || c = '\\' then "\\" ++ c.toString
  else if isExtender c || isHidden c then codePoint c
  else c.toString

def quotedChar (c : Char) : String := "'" ++ quotedBy '\'' c ++ "'"

def quoted (cs : List Char) : String := "\"" ++ String.join (cs.map (quotedBy '"')) ++ "\""

end Initialism.Text
