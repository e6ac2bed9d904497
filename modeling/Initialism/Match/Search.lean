import Initialism.Enumeration
import Initialism.Match.Basic
import Initialism.Pattern.Basic

/-! The ways a pattern can take letters from the front of a word, in a fixed order: children are
tried from left to right, and taking nothing comes first where it is allowed. -/
namespace Initialism

abbrev Matcher := Letters → Enumeration Match

/-- An element of a list between what stands in front of it, nearest first, and what follows. -/
structure Selection (α : Type u) where
  before : List α
  element : α
  after : List α

/-- The list without the element. It is put together only where it is asked for. -/
def Selection.others {α : Type u} (s : Selection α) : List α := s.before.reverseAux s.after

def selectionsAfter {α : Type u} (before : List α) : List α → Enumeration (Selection α)
  | [] => .done
  | a :: l => .found ⟨before, a, l⟩ fun _ => selectionsAfter (a :: before) l

def selections {α : Type u} (l : List α) : Enumeration (Selection α) := selectionsAfter [] l

theorem toList_selectionsAfter {α : Type u} (before l : List α) :
    (selectionsAfter before l).toList =
      (selections l).toList.map fun s => { s with before := s.before ++ before } := by
  induction l generalizing before with
  | nil => rfl
  | cons a l ih =>
    rw [selections, selectionsAfter, selectionsAfter, Enumeration.toList_found,
      Enumeration.toList_found, ih (a :: before), ih [a]]
    simp

theorem toList_selections_cons {α : Type u} (a : α) (l : List α) :
    ((selections (a :: l)).toList.map fun s => (s.element, s.others)) =
      (a, l) :: (selections l).toList.map fun s => (s.element, a :: s.others) := by
  rw [selections, selectionsAfter, Enumeration.toList_found, toList_selectionsAfter [a]]
  simp [Selection.others, List.reverseAux_eq]

namespace Matcher

def literal (word : String) : Matcher := fun v =>
  match v.split?, word.toList.head? with
  | some (c, r), some i => if Text.sameLetter c i then .single ⟨[.word word], r⟩ else .done
  | _, _ => .done

def wildcard : Matcher := fun v =>
  match v.split? with
  | some (c, r) => .single ⟨[.letter c], r⟩
  | none => .done

def optional (m : Matcher) : Matcher := fun v => .found (.skip v) fun _ => m v

def followed (m next : Matcher) : Matcher := fun v =>
  (m v).flatMap fun h => (next h.rest).map h.andThen

def sequence : List Matcher → Matcher
  | [] => fun _ => .done
  | [m] => m
  | m :: n :: ms => followed m (sequence (n :: ms))

/- The first argument counts the matchers: each step uses one of them up. -/
def allOfCount : Nat → List Matcher → Matcher
  | _, [m] => m
  | 0, _ => fun _ => .done
  | n+1, ms => fun v =>
    (selections ms).flatMap fun s => followed s.element (fun r => allOfCount n s.others r) v

def allOf (ms : List Matcher) : Matcher := allOfCount ms.length ms

/-- The matches of `m` that take a letter. One that takes none would only repeat what comes
without it. -/
def nonempty (m : Matcher) : Matcher := fun v => (m v).filter fun h => h.rest.length < v.length

/- The first argument counts the matchers, as for `allOfCount`. -/
def someOfCount : Nat → List Matcher → Matcher
  | 0, _ => fun _ => .done
  | n+1, ms => fun v =>
    (selections ms).flatMap fun s =>
      (nonempty s.element v).flatMap fun h => .found h fun _ =>
        if h.isComplete then .done else (someOfCount n s.others h.rest).map h.andThen

def anySubset (ms : List Matcher) : Matcher := fun v =>
  .found (.skip v) fun _ => someOfCount ms.length ms v

def oneOf (ms : List Matcher) : Matcher := fun v => (Enumeration.ofList ms).flatMap fun m => m v

def group : Group → List Matcher → Matcher
  | .sequence => sequence
  | .allOf => allOf
  | .anySubset => anySubset
  | .oneOf => oneOf

end Matcher

namespace Pattern

mutual
def matcher : Pattern → Matcher
  | literal w => .literal w
  | wildcard => .wildcard
  | optional p => .optional p.matcher
  | group g ps => .group g (matchers ps)
def matchers : List Pattern → List Matcher
  | [] => []
  | p :: ps => p.matcher :: matchers ps
end

def spellings (p : Pattern) : Matcher := fun v => (p.matcher v).filter Match.isComplete

@[simp] theorem matchers_eq (ps : List Pattern) : matchers ps = ps.map matcher := by
  induction ps with
  | nil => rfl
  | cons p ps ih => simp [matchers, ih]

end Pattern
end Initialism
