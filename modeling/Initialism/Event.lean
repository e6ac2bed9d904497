import Initialism.Pattern.Parse

/-! What the library reports beside its answers. -/
namespace Initialism

structure Tally where
  candidates : Nat
  matched : Nat
  acronyms : Nat
deriving DecidableEq, Repr

def Tally.zero : Tally := ⟨0, 0, 0⟩

inductive Level where
  | trace | debug | warn
deriving DecidableEq, Repr

inductive Event where
  | parsed (expression tree : String)
  | skipped (candidate : String)
  | matched (candidate : String) (found : Nat)
  | exhausted (tally : Tally)
  | opened (path : String)
  | stoppedReading (path : String) (line : Nat) (error : String)
deriving DecidableEq, Repr

namespace Event

def level : Event → Level
  | parsed _ _ | skipped _ | matched _ _ => .trace
  | exhausted _ | opened _ => .debug
  | stoppedReading _ _ _ => .warn

def message : Event → String
  | parsed _ _ => "parsed constraint"
  | skipped _ => "skipping candidate already produced as a name"
  | matched _ _ => "matched candidate"
  | exhausted _ => "candidate stream exhausted"
  | opened _ => "opened word list"
  | stoppedReading _ _ _ => "stopped reading word list"

/-- Only a reading that succeeds is reported. -/
def ofParse (source : String) : Except Fault Pattern → List Event
  | .ok p => [parsed source p.render]
  | .error _ => []

end Event
end Initialism
