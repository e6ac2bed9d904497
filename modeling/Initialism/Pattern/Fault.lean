import Initialism.Pattern.Token
import Initialism.Text.Quoted

/-! Why an expression cannot be read, where in it, and how that is shown. -/
namespace Initialism

inductive Fault.Cause where
  | illegalCharacter (c : Char)
  | unclosedGroup (g : Group)
  | danglingOptional
  | emptyExpression
  | unexpectedDelimiter (c : Char)
deriving DecidableEq, Repr

structure Fault where
  cause : Fault.Cause
  span : Span
deriving DecidableEq, Repr

/-- The source with carets under the span; an empty span, or one that runs backwards, still has
one caret. -/
def Span.underline (s : Span) (source : String) : String :=
  source ++ "\n" ++ String.ofList (List.replicate s.start ' ') ++
    String.ofList (List.replicate (max 1 (s.stop - s.start)) '^')

def Fault.Cause.message : Fault.Cause → String
  | illegalCharacter c => "Illegal character " ++ Text.quotedChar c
  | unclosedGroup g => "Expected \"" ++ g.closing.toString ++ "\" to close the group opened here"
  | danglingOptional => "Unexpected '?' with no preceding term"
  | emptyExpression => "No terms found"
  | unexpectedDelimiter c => "Unexpected " ++ Text.quotedChar c ++ " with no open group"

namespace Fault

def diagnostic (f : Fault) (source : String) : String := f.span.underline source
def message (f : Fault) (source : String) : String := f.cause.message ++ "\n" ++ f.diagnostic source

end Fault

def Token.diagnostic (t : Token) (source : String) : String := t.span.underline source

end Initialism
