import Initialism.Pattern.Cursor

/-! Cursors under calls in any order. Where a cursor keeps what is still to come cannot be seen: it
answers like the list of it, from which `pop` takes the head, to which `unget` adds a new one, and
which `peek` leaves as it is unless an illegal character comes next. -/
namespace Initialism.Cursor
open List

inductive Call where
  | pop
  | peek
  | unget (t : Token)
deriving DecidableEq, Repr

namespace Call

def onCursor : Call → Cursor → Option Entry × Cursor
  | pop, k => k.pop
  | peek, k => k.peek
  | unget t, k => (none, k.unget t)

def onList : Call → List Entry → Option Entry × List Entry
  | pop, es => (es.head?, es.tail)
  | peek, .illegal c p :: es => (some (.illegal c p), es)
  | peek, es => (es.head?, es)
  | unget t, es => (none, .token t :: es)

def takes : Call → Option Entry → List Entry
  | pop, e? => e?.toList
  | peek, some (.illegal c p) => [.illegal c p]
  | peek, _ | unget _, _ => []

def puts : Call → List Entry
  | unget t => [.token t]
  | pop | peek => []

end Call

section
variable {σ : Type}

def answers (step : Call → σ → Option Entry × σ) (s : σ) : List Call → List (Option Entry)
  | [] => []
  | c :: cs => (step c s).1 :: answers step (step c s).2 cs

def after (step : Call → σ → Option Entry × σ) (s : σ) (cs : List Call) : σ :=
  cs.foldl (fun s c => (step c s).2) s

end

def taken (cs : List Call) (as : List (Option Entry)) : List Entry := (zipWith Call.takes cs as).flatten

variable {k : Cursor} {c : Call} {cs us vs : List Call} {es : List Entry}

theorem onCursor_eq (c : Call) (k : Cursor) :
    (c.onCursor k).1 = (c.onList k.toList).1 ∧ (c.onCursor k).2.toList = (c.onList k.toList).2 := by
  cases c with
  | pop => exact ⟨k.fst_pop, k.toList_snd_pop⟩
  | peek =>
    obtain ⟨hf, hs⟩ := k.peek_spec
    generalize k.toList = es at hf hs ⊢
    cases es with
    | nil => exact ⟨hf, hs⟩
    | cons e es => cases e <;> exact ⟨hf, hs⟩
  | unget t => exact ⟨rfl, rfl⟩

theorem answers_onCursor (k : Cursor) (cs : List Call) :
    answers Call.onCursor k cs = answers Call.onList k.toList cs := by
  induction cs generalizing k with
  | nil => rfl
  | cons c cs ih =>
    obtain ⟨ha, hl⟩ := onCursor_eq c k
    rw [answers, answers, ha, ih, hl]

theorem toList_after (k : Cursor) (cs : List Call) :
    (after Call.onCursor k cs).toList = after Call.onList k.toList cs := by
  induction cs generalizing k with
  | nil => rfl
  | cons c cs ih =>
    obtain ⟨-, hl⟩ := onCursor_eq c k
    rw [after, foldl_cons, ← after, ih, hl]
    rfl

/-- What a call adds and what was there before is what it takes away and what it leaves. -/
theorem puts_append (c : Call) (es : List Entry) :
    c.puts ++ es = c.takes (c.onList es).1 ++ (c.onList es).2 := by
  cases c with
  | pop => cases es <;> rfl
  | peek =>
    match es with
    | [] => rfl
    | .token t :: es => rfl
    | .illegal c p :: es => rfl
  | unget t => rfl

theorem taken_cons (c : Call) (cs : List Call) (es : List Entry) :
    taken (c :: cs) (answers Call.onList es (c :: cs)) =
      c.takes (c.onList es).1 ++ taken cs (answers Call.onList (c.onList es).2 cs) := rfl

theorem taken_append_perm (cs : List Call) (es : List Entry) :
    (taken cs (answers Call.onList es cs) ++ after Call.onList es cs).Perm
      (es ++ cs.flatMap Call.puts) := by
  induction cs generalizing es with
  | nil => exact .of_eq (append_nil es).symm
  | cons c cs ih =>
    rw [taken_cons, append_assoc, flatMap_cons]
    calc c.takes (c.onList es).1 ++ (taken cs _ ++ after Call.onList (c.onList es).2 cs)
        _ ~ c.takes (c.onList es).1 ++ ((c.onList es).2 ++ cs.flatMap Call.puts) := (ih _).append_left _
        _ = c.puts ++ es ++ cs.flatMap Call.puts := by rw [puts_append, append_assoc]
        _ ~ es ++ (c.puts ++ cs.flatMap Call.puts) := by
          rw [← append_assoc]
          exact perm_append_comm.append_right _

theorem taken_append (h : ∀ c ∈ cs, c.puts = []) (es : List Entry) :
    taken cs (answers Call.onList es cs) ++ after Call.onList es cs = es := by
  induction cs generalizing es with
  | nil => rfl
  | cons c cs ih =>
    obtain ⟨hc, hcs⟩ := forall_mem_cons.1 h
    have hp := puts_append c es
    rw [hc, nil_append] at hp
    rw [taken_cons, append_assoc]
    exact (congrArg _ (ih hcs _)).trans hp.symm

theorem after_append {σ : Type} (step : Call → σ → Option Entry × σ) (s : σ) (us vs : List Call) :
    after step s (us ++ vs) = after step (after step s us) vs :=
  foldl_append

theorem after_peeks (h : ∀ c p, es.head? ≠ some (.illegal c p)) (n : Nat) :
    after Call.onList es (replicate n .peek) = es := by
  have hp : (Call.onList .peek es).2 = es := by
    match es with
    | [] => rfl
    | .token t :: es => rfl
    | .illegal c p :: es => exact absurd rfl (h c p)
  induction n with
  | zero => rfl
  | succ n ih => rwa [replicate_succ, after, foldl_cons, hp, ← after]

theorem pop_peek_of_toList_nil (h : k.toList = []) : k.pop = (none, k) ∧ k.peek = (none, k) := by
  obtain ⟨ts, es⟩ := k
  cases ts with
  | cons t ts => cases h
  | nil =>
    cases es with
    | cons e es => cases h
    | nil => exact ⟨rfl, rfl⟩

def reached (source : String) (us : List Call) : Cursor := after Call.onCursor (ofSource source) us

theorem toList_reached (source : String) (us : List Call) :
    (reached source us).toList = after Call.onList (tokenize source) us :=
  toList_after _ us

/-- After the calls `us` the cursor is the list that these calls make of the entries of the text. -/
structure ActsAsList (source : String) (us : List Call) : Prop where
  toList_eq : (reached source us).toList = after Call.onList (tokenize source) us
  answers_eq : ∀ vs,
    answers Call.onCursor (reached source us) vs = answers Call.onList (reached source us).toList vs
  ended : (reached source us).toList = [] → (reached source us).pop = (none, reached source us) ∧
    (reached source us).peek = (none, reached source us)
  /-- Looks that meet no illegal character make no difference to later calls. -/
  unseen : (∀ c p, (reached source us).peek.1 ≠ some (.illegal c p)) → ∀ n vs,
    answers Call.onCursor (reached source (us ++ replicate n .peek)) vs =
      answers Call.onCursor (reached source us) vs
  /-- Each entry is taken as often as it was there or was added, but for those still to come. -/
  balance : taken us (answers Call.onCursor (ofSource source) us) ++ (reached source us).toList ~
    tokenize source ++ us.flatMap Call.puts
  ordered : ∀ vs, (∀ c ∈ vs, c.puts = []) →
    taken vs (answers Call.onCursor (reached source us) vs) ++ (reached source (us ++ vs)).toList =
      (reached source us).toList

/-- A cursor cannot be told from the list of the entries of its text, whatever it is asked. -/
theorem actsAsList (source : String) (us : List Call) : ActsAsList source us where
  toList_eq := toList_reached source us
  answers_eq vs := answers_onCursor _ vs
  ended h := pop_peek_of_toList_nil h
  unseen h n vs := by
    have hh : ∀ c p, (reached source us).toList.head? ≠ some (.illegal c p) := by
      rwa [← (peek_spec _).1]
    have hl : (reached source (us ++ replicate n .peek)).toList = (reached source us).toList := by
      rw [toList_reached, after_append, ← toList_reached, after_peeks hh]
    rw [answers_onCursor, answers_onCursor, hl]
  balance := by
    rw [answers_onCursor, toList_reached]
    exact taken_append_perm us (tokenize source)
  ordered vs h := by
    rw [answers_onCursor, toList_reached source (us ++ vs), after_append, ← toList_reached]
    exact taken_append h _

example : answers Call.onCursor (ofSource "a $?")
    [.peek, .pop, .unget ⟨.word, "a", 0⟩, .pop, .peek, .peek, .pop, .pop] =
      [some (.token ⟨.word, "a", 0⟩), some (.token ⟨.word, "a", 0⟩), none,
        some (.token ⟨.word, "a", 0⟩), some (.illegal '$' 2), some (.token ⟨.question, "?", 3⟩),
        some (.token ⟨.question, "?", 3⟩), none] := by decide

end Initialism.Cursor
