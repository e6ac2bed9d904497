import Std.Data.TreeSet
import Initialism.Event
import Initialism.Match.Search

/-! Acronyms of one pattern over a stream of candidate words, handed out one at a time. The stream
answers with a word or with a pause, after which it may go on; past its end it only pauses.
Nothing is taken from the stream, and no match is looked for, before it is needed. -/
namespace Initialism

structure Candidate where
  word : String
  more : Unit → Enumeration Match
  found : Nat

structure Run where
  root : Pattern
  least : Nat
  most : Nat
  /-- all names handed out so far; a pause keeps them -/
  names : Std.TreeSet String
  current : Option Candidate
  answers : Unit → Enumeration (Option String)
  tally : Tally
  pulled : Nat

structure Reply where
  acronym? : Option Acronym
  events : List Event

namespace Run

def ofAnswers (root : Pattern) (answers : Unit → Enumeration (Option String)) : Run where
  root := root
  least := root.minLength
  most := root.maxLength
  names := ∅
  current := none
  answers := answers
  tally := .zero
  pulled := 0

/-- Asks for acronyms of at least `n` letters, in place of what was asked before. The pattern's own
least length stays in force. -/
def atLeast (n : Nat) (r : Run) : Run := { r with least := max n r.root.minLength }

def isGuarded (r : Run) (word : String) : Bool := r.names.contains (Text.upperText word)

def admits (r : Run) (word : String) : Bool := r.least ≤ word.length && word.length ≤ r.most

def count (r : Run) : Run :=
  { r with tally := { r.tally with candidates := r.tally.candidates + 1 }, pulled := r.pulled + 1 }

def handOut (r : Run) (word : String) (found : Nat) (m : Match) (more : Unit → Enumeration Match) :
    Run :=
  { r with
    names := r.names.insert m.name
    current := some ⟨word, more, found⟩
    tally := { r.tally with acronyms := r.tally.acronyms + 1 } }

def finish (r : Run) : Run :=
  { r with current := none, tally := { r.tally with matched := r.tally.matched + 1 } }

/-- Pauses. The counts start again if there is anything to report. -/
def pause (r : Run) (log : List Event) : Reply × Run :=
  if r.tally.candidates = 0 then (⟨none, log.reverse⟩, r)
  else (⟨none, (.exhausted r.tally :: log).reverse⟩, { r with tally := .zero })

/-- Takes candidates until one has a match or the stream pauses; `log` holds the events so far,
last first. -/
def seek (r : Run) (log : List Event) : Enumeration (Option String) → Reply × Run
  | .done => { r with answers := fun _ => .done }.pause log
  | .found none rest => { r with answers := rest }.pause log
  | .found (some w) rest =>
    if r.isGuarded w then seek r.count (.skipped w :: log) (rest ())
    else if r.admits w then
      match r.root.spellings (.ofString w) with
      | .done => seek r.count log (rest ())
      | .found m more =>
        (⟨some m.acronym, log.reverse⟩, { r.count with answers := rest }.handOut w 1 m more)
    else seek r.count log (rest ())

def next (r : Run) : Reply × Run :=
  match r.current with
  | none => r.seek [] (r.answers ())
  | some c =>
    match c.more () with
    | .found m more => (⟨some m.acronym, []⟩, r.handOut c.word (c.found + 1) m more)
    | .done => r.finish.seek [.matched c.word c.found] (r.answers ())

def unseen (r : Run) : Nat × Nat :=
  ((r.answers ()).toList.length, (r.current.map fun c => (c.more ()).toList.length).getD 0)

theorem length_answers_of_seek {r s : Run} {log : List Event} {a : Acronym}
    {e : Enumeration (Option String)} {ev : List Event} (h : r.seek log e = (⟨some a, ev⟩, s)) :
    (s.answers ()).toList.length < e.toList.length := by
  induction e generalizing r log with
  | done =>
    simp only [seek, pause] at h
    split at h <;> simp at h
  | found o rest ih =>
    have skip {r' : Run} {log' : List Event} (h' : r'.seek log' (rest ()) = (⟨some a, ev⟩, s)) :
        (s.answers ()).toList.length < (Enumeration.found o rest).toList.length := by
      have := ih () h'
      simp only [Enumeration.toList_found, List.length_cons]
      omega
    cases o with
    | none =>
      simp only [seek, pause] at h
      split at h <;> simp at h
    | some w =>
      rw [seek] at h
      split at h
      · exact skip h
      · split at h
        · split at h
          · exact skip h
          · simp only [Prod.mk.injEq] at h
            simp [← h.2, handOut]
        · exact skip h

theorem unseen_of_next {r s : Run} {a : Acronym} {ev : List Event}
    (h : r.next = (⟨some a, ev⟩, s)) : Prod.Lex (· < ·) (· < ·) s.unseen r.unseen := by
  rw [next] at h
  split at h
  · exact .left _ _ (length_answers_of_seek h)
  · next c hc =>
    split at h
    · next m more hm =>
      simp only [Prod.mk.injEq] at h
      rw [← h.2]
      simp only [unseen, handOut, hc, Option.map_some, Option.getD_some, hm]
      exact .right _ (by simp)
    · exact .left _ _ (length_answers_of_seek h)

def acronyms (r : Run) : Enumeration Acronym :=
  match _h : r.next with
  | (⟨some a, _⟩, s) => .found a fun _ => s.acronyms
  | (⟨none, _⟩, _) => .done
termination_by r.unseen
decreasing_by exact unseen_of_next ‹_›

end Run
end Initialism
