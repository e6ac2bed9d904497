import Initialism.Pattern.Parse

/-! Reading in one pass: the groups that are open stand in a stack, and each entry changes its top
at most. Recursive descent gives the same pattern and the same fault, so what is said about
expressions is proved entry by entry. -/
namespace Initialism

structure Frame where
  group : Group
  opening : Token
  before : List Pattern
deriving DecidableEq, Repr

def Frame.unclosed (f : Frame) : Fault := ⟨.unclosedGroup f.group, f.opening.span⟩

/-- The open groups, innermost first, and the terms of the innermost level, last first. -/
structure Reading where
  frames : List Frame
  terms : List Pattern
deriving DecidableEq, Repr

namespace Reading
open Pattern (group)

def start : Reading := ⟨[], []⟩

def push (r : Reading) (p : Pattern) : Reading := { r with terms := p :: r.terms }

def close (r : Reading) (g : Group) (t : Token) : Except Fault Reading :=
  match r.frames with
  | [] => .error ⟨.unexpectedDelimiter t.initial, t.span⟩
  | f :: fs =>
    if g = f.group then
      if r.terms = [] then .error ⟨.emptyExpression, f.opening.span⟩
      else .ok ⟨fs, .group f.group r.terms.reverse :: f.before⟩
    else .error f.unclosed

def token (r : Reading) (t : Token) : Except Fault Reading :=
  match t.kind with
  | .opening g => .ok ⟨⟨g, t, r.terms⟩ :: r.frames, []⟩
  | .closing g => r.close g t
  | .question =>
    match r.terms with
    | [] => .error ⟨.danglingOptional, t.span⟩
    | p :: ps => .ok { r with terms := .optional p :: ps }
  | .period => .ok (r.push .wildcard)
  | .word => .ok (r.push (.literal t.lexeme))

def step (r : Reading) : Entry → Except Fault Reading
  | .illegal c p => .error ⟨.illegalCharacter c, (Entry.illegal c p).span⟩
  | .token t => r.token t

def run (r : Reading) : List Entry → Except Fault Reading
  | [] => .ok r
  | e :: es =>
    match r.step e with
    | .error f => .error f
    | .ok r => run r es

def finish (r : Reading) (size : Nat) : Except Fault Pattern :=
  match r.frames, r.terms with
  | f :: _, _ => .error f.unclosed
  | [], [] => .error ⟨.emptyExpression, ⟨0, size⟩⟩
  | [], [p] => .ok p
  | [], ps => .ok (.group .anySubset ps.reverse)

def outcome (r : Reading) (size : Nat) (es : List Entry) : Except Fault Pattern :=
  match r.run es with
  | .error f => .error f
  | .ok r => r.finish size

variable {r : Reading} {size : Nat} {e : Entry} {es : List Entry}

theorem outcome_cons_of_ok {s : Reading} (h : r.step e = .ok s) :
    r.outcome size (e :: es) = s.outcome size es := by
  rw [outcome, outcome, run, h]

theorem outcome_cons_of_error {f : Fault} (h : r.step e = .error f) :
    r.outcome size (e :: es) = .error f := by
  rw [outcome, run, h]

theorem finish_reverse (ps : List Pattern) (size : Nat) : finish ⟨[], ps.reverse⟩ size =
    match ps with
    | [] => .error ⟨.emptyExpression, ⟨0, size⟩⟩
    | [p] => .ok p
    | ps => .ok (.group .anySubset ps) := by
  match ps with
  | [] => rfl
  | [p] => rfl
  | p :: p' :: ps =>
    have hr := List.reverse_reverse (p :: p' :: ps)
    match h : (p :: p' :: ps).reverse with
    | [] => simp at h
    | [q] => simp [h] at hr
    | q :: q' :: qs =>
      rw [h] at hr
      exact congrArg (fun l => Except.ok (group .anySubset l)) hr

end Reading

namespace Cursor
open Reading

theorem stops_of_readTerms {k : Cursor} {inside : Option Group} {done : List Pattern} {r : Cursor}
    {hr : r.length ≤ k.length} {q : Parsed (List Pattern) k}
    (hq : readTerms k inside done r hr = .ok q) :
    q.rest.toList = [] ∨ inside.isSome ∧
      ∃ t g es, t.kind = .closing g ∧ q.rest.toList = .token t :: es := by
  rw [readTerms] at hq
  split at hq
  · next s h =>
    obtain rfl := Except.ok.inj hq
    exact .inl (toList_of_pop_none h).2
  · cases hq
  · next t s h =>
    have hs : s.length + 1 = r.length := length_of_pop h
    split at hq
    · split at hq
      · cases hq
      · next q' _ =>
        have hl : q'.rest.length ≤ s.length := q'.length_le
        exact stops_of_readTerms hq
    · next g ht =>
      split at hq
      · next hi =>
        obtain rfl := Except.ok.inj hq
        exact .inr ⟨hi, t, g, s.toList, ht, toList_unget s t⟩
      · cases hq
    · split at hq
      · cases hq
      · exact stops_of_readTerms hq
    · exact stops_of_readTerms hq
    · exact stops_of_readTerms hq
termination_by r.length

theorem fst_peek_eq {k s : Cursor} {e? : Option Entry} (h : k.peek = (e?, s)) :
    k.toList.head? = e? := by
  rw [← (peek_spec k).1, h]

theorem closing_of_readTerms {k : Cursor} {inside : Option Group} {done : List Pattern} {r : Cursor}
    {hr : r.length ≤ k.length} {q : Parsed (List Pattern) k} {e : Entry}
    (hq : readTerms k inside done r hr = .ok q) (he : q.rest.toList.head? = some e) :
    ∃ t g, e = .token t ∧ t.kind = .closing g := by
  obtain hn | ⟨-, t, g, es, ht, hs⟩ := stops_of_readTerms hq
  · simp [hn] at he
  · rw [hs, List.head?_cons] at he
    exact ⟨t, g, (Option.some.inj he).symm, ht⟩

mutual
/-- Reading on from the terms in hand comes to what reading the terms that follow them leads to. -/
theorem outcome_readTerms {size : Nat} {k : Cursor} {inside : Option Group} {done : List Pattern}
    {r : Cursor} {hr : r.length ≤ k.length} {fs : List Frame} (hin : inside.isSome = !fs.isEmpty) :
    outcome ⟨fs, done⟩ size r.toList =
      match readTerms k inside done r hr with
      | .error f => .error f
      | .ok q => outcome ⟨fs, q.value.reverse⟩ size q.rest.toList := by
  generalize hx : readTerms k inside done r hr = x
  rw [readTerms] at hx
  split at hx
  · next s h =>
    subst hx
    obtain ⟨hr, hs⟩ := toList_of_pop_none h
    simp [hr, hs]
  · next c p s h =>
    subst hx
    rw [toList_of_pop h]
    exact outcome_cons_of_error rfl
  · next t s h =>
    -- The loop does with the token `t` what one step does. Only an opening bracket leads further:
    -- its group is read to the end before the loop goes on behind it.
    have hs : s.length + 1 = r.length := length_of_pop h
    rw [toList_of_pop h]
    split at hx
    · next g ht =>
      rw [outcome_cons_of_ok (s := ⟨⟨g, t, done⟩ :: fs, []⟩) (by simp [step, token, ht]),
        outcome_readGroup]
      cases hq : readGroup s g t with
      | error f =>
        rw [hq] at hx
        subst hx
        rfl
      | ok q =>
        rw [hq] at hx
        subst hx
        have hl : q.rest.length ≤ s.length := q.length_le
        exact outcome_readTerms hin
    · next g ht =>
      split at hx
      · subst hx
        simp
      · next hn =>
        subst hx
        have hfs : fs = [] := by simpa [hn] using hin.symm
        exact outcome_cons_of_error (by simp [step, token, ht, close, hfs])
    · next ht =>
      split at hx
      · subst hx
        refine outcome_cons_of_error ?_
        simp [step, token, ht]
      · next p ps =>
        subst hx
        rw [outcome_cons_of_ok (s := ⟨fs, .optional p :: ps⟩) (by simp [step, token, ht])]
        exact outcome_readTerms hin
    · next ht =>
      subst hx
      rw [outcome_cons_of_ok (s := ⟨fs, .wildcard :: done⟩) (by simp [step, token, ht, push])]
      exact outcome_readTerms hin
    · next ht =>
      subst hx
      rw [outcome_cons_of_ok (s := ⟨fs, .literal t.lexeme :: done⟩)
        (by simp [step, token, ht, push])]
      exact outcome_readTerms hin
termination_by (r.length, 0)

theorem outcome_readGroup {size : Nat} {k : Cursor} {g : Group} {opening : Token}
    {before : List Pattern} {fs : List Frame} :
    outcome ⟨⟨g, opening, before⟩ :: fs, []⟩ size k.toList =
      match readGroup k g opening with
      | .error f => .error f
      | .ok q => outcome ⟨fs, q.value :: before⟩ size q.rest.toList := by
  have ht := @outcome_readTerms size k (some g) [] k k.length.le_refl
    (⟨g, opening, before⟩ :: fs) rfl
  generalize hx : readGroup k g opening = x
  rw [readGroup] at hx
  rw [ht]
  cases hq : readTerms k (some g) [] k k.length.le_refl with
  | error f =>
    rw [hq] at hx
    subst hx
    rfl
  | ok q =>
    rw [hq] at hx
    simp only at hx ⊢
    split at hx
    · next t s h =>
      obtain ⟨hqs, es, hes⟩ := toList_of_peek h
      obtain ⟨_, g', ht', hk⟩ := closing_of_readTerms hq (fst_peek_eq h)
      obtain rfl := Entry.token.inj ht'
      rw [hqs, hes]
      split at hx
      · next hg =>
        obtain rfl : g' = g := by simpa [Token.closes?, hk] using hg
        split at hx
        · next hv =>
          subst hx
          exact outcome_cons_of_error (by simpa [step, token, hk, close] using hv)
        · next hv =>
          subst hx
          rw [outcome_cons_of_ok (s := ⟨fs, .group g' q.value :: before⟩)
            (by simpa [step, token, hk, close] using hv)]
          simp [hes]
      · next hg =>
        subst hx
        have hne : ¬ g' = g := by simpa [Token.closes?, hk] using hg
        exact outcome_cons_of_error (by simp [step, token, hk, close, hne, Frame.unclosed])
    · next c p s h =>
      -- An illegal character is a fault of the terms and cannot be what stops them.
      obtain ⟨_, _, he, -⟩ := closing_of_readTerms hq (fst_peek_eq h)
      cases he
    · next s h =>
      have hn : q.rest.toList = [] := by
        rw [← List.head?_eq_none_iff, fst_peek_eq h]
      subst hx
      rw [hn]
      rfl
termination_by (k.length, 1)
end

end Cursor

namespace Pattern
open Reading

theorem parse_eq_outcome (source : String) :
    parse source = start.outcome source.utf8ByteSize (tokenize source) := by
  have h := @Cursor.outcome_readTerms source.utf8ByteSize (.ofSource source) none []
    (.ofSource source) (Nat.le_refl _) [] rfl
  rw [start, ← Cursor.toList_ofSource, h, parse]
  split
  · next f hf => rw [hf]
  · next q hq =>
    have hn : q.rest.toList = [] := by simpa using Cursor.stops_of_readTerms hq
    simp only [hq, hn]
    exact (finish_reverse q.value _).symm

example : parse "a (]" = .error ⟨.unclosedGroup .oneOf, ⟨2, 3⟩⟩ := by
  rw [parse_eq_outcome]
  rfl

end Pattern
end Initialism
