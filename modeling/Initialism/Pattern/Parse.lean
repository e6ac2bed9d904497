import Initialism.Pattern.Cursor
import Initialism.Pattern.Fault

/-! Patterns from expression text, by recursive descent over a cursor: terms are read one after the
other, and an opening bracket is read on to the bracket that closes it. -/
namespace Initialism

structure Parsed (α : Type u) (k : Cursor) where
  value : α
  rest : Cursor
  length_le : rest.length ≤ k.length

namespace Cursor

theorem length_le_of_read {k r s : Cursor} (hr : r.length ≤ k.length)
    (hs : s.length + 1 = r.length) : s.length ≤ k.length := by
  omega

mutual
/-- Reads terms from `r` on, to the end of the text or, inside a group, to a closing bracket, which
is put back. `done` holds the terms before `r`, last first. -/
def readTerms (k : Cursor) (inside : Option Group) (done : List Pattern) (r : Cursor)
    (hr : r.length ≤ k.length) : Except Fault (Parsed (List Pattern) k) :=
  match h : r.pop with
  | (none, s) => .ok ⟨done.reverse, s, by simp [length, (toList_of_pop_none h).2]⟩
  | (some (.illegal c p), _) => .error ⟨.illegalCharacter c, (Entry.illegal c p).span⟩
  | (some (.token t), s) =>
    have hs : s.length + 1 = r.length := length_of_pop h
    match t.kind with
    | .opening g =>
      match readGroup s g t with
      | .error f => .error f
      | .ok q =>
        have hq : q.rest.length ≤ s.length := q.length_le
        readTerms k inside (q.value :: done) q.rest (by omega)
    | .closing _ =>
      if inside.isSome then
        have hu : (s.unget t).length = s.length + 1 := by simp [length]
        .ok ⟨done.reverse, s.unget t, by omega⟩
      else .error ⟨.unexpectedDelimiter t.initial, t.span⟩
    | .question =>
      match done with
      | [] => .error ⟨.danglingOptional, t.span⟩
      | p :: ps => readTerms k inside (.optional p :: ps) s (length_le_of_read hr hs)
    | .period => readTerms k inside (.wildcard :: done) s (length_le_of_read hr hs)
    | .word => readTerms k inside (.literal t.lexeme :: done) s (length_le_of_read hr hs)
termination_by (r.length, 0)

def readGroup (k : Cursor) (g : Group) (opening : Token) : Except Fault (Parsed Pattern k) :=
  match readTerms k (some g) [] k k.length.le_refl with
  | .error f => .error f
  | .ok q =>
    match h : q.rest.peek with
    | (some (.token t), s) =>
      have hs : s.pop.2.length ≤ k.length :=
        Nat.le_trans s.length_pop_le (Nat.le_trans (length_of_peek h) q.length_le)
      if t.closes? = some g then
        if q.value.isEmpty then .error ⟨.emptyExpression, opening.span⟩
        else .ok ⟨.group g q.value, s.pop.2, hs⟩
      else .error ⟨.unclosedGroup g, opening.span⟩
    | (some (.illegal c p), _) => .error ⟨.illegalCharacter c, (Entry.illegal c p).span⟩
    | (none, _) => .error ⟨.unclosedGroup g, opening.span⟩
termination_by (k.length, 1)
end

end Cursor

/-- Several terms are read as any subset of them. -/
def Pattern.parse (source : String) : Except Fault Pattern :=
  let k := Cursor.ofSource source
  match k.readTerms none [] k k.length.le_refl with
  | .error f => .error f
  | .ok q =>
    match q.value with
    | [] => .error ⟨.emptyExpression, ⟨0, source.utf8ByteSize⟩⟩
    | [p] => .ok p
    | ps => .ok (.group .anySubset ps)

end Initialism
