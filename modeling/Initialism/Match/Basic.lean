import Initialism.Letters
import Initialism.Text.Case

/-! What a match is made of, and the acronym it gives. -/
namespace Initialism

inductive Item where
  | word (text : String)
  | letter (c : Char)
deriving DecidableEq, Repr

namespace Item

def initial? : Item → Option Char
  | word w => w.toList.head?
  | letter c => some c

def text : Item → String
  | word w => w
  | letter c => c.toString

end Item

structure Acronym where
  name : String
  items : List String
deriving DecidableEq, Repr

namespace Acronym

def expansion (a : Acronym) : String := " ".intercalate a.items
def text (a : Acronym) : String := a.name ++ ": " ++ a.expansion

end Acronym

/-- The items used so far and the letters they leave. -/
structure Match where
  items : List Item
  rest : Letters

namespace Match

def skip (v : Letters) : Match := ⟨[], v⟩

def andThen (m n : Match) : Match := ⟨m.items ++ n.items, n.rest⟩

def isComplete (m : Match) : Bool := m.rest.isEmpty

instance : BEq Match := ⟨fun m n => m.items == n.items && m.rest == n.rest⟩

/-- The initials of the items in upper case, in which a letter may become several. -/
def name (m : Match) : String :=
  String.ofList ((m.items.filterMap Item.initial?).flatMap Text.upper)

def acronym (m : Match) : Acronym := ⟨m.name, m.items.map Item.text⟩

def text (m : Match) : String :=
  " ".intercalate (m.items.map Item.text) ++ if m.isComplete then "" else "@" ++ m.rest.text

theorem isComplete_iff (m : Match) : m.isComplete = true ↔ m.rest.toList = [] :=
  m.rest.isEmpty_iff

theorem beq_iff (m n : Match) :
    (m == n) = true ↔ m.items = n.items ∧ m.rest.toList = n.rest.toList := by
  show (m.items == n.items && m.rest == n.rest) = true ↔ _
  rw [Bool.and_eq_true, beq_iff_eq, Letters.beq_iff]

@[simp] theorem rest_andThen (m n : Match) : (m.andThen n).rest = n.rest := rfl
@[simp] theorem items_andThen (m n : Match) : (m.andThen n).items = m.items ++ n.items := rfl

end Match
end Initialism
