import Initialism.Proofs.WordList.Lines

/-! Word lists that are asked again after they had no word to give. A line that cannot be read is
answered with nothing and is then behind, so the next call goes on with the line after it. -/
namespace Initialism
open List
open Text (decode? trim)

def answerOfLine? (l : List UInt8) : Option (Option String) :=
  match decode? l with
  | none => some none
  | some s => if trim s = "" then none else some (some (trim s))

theorem answerOfLine?_eq_some_none {l : List UInt8} :
    answerOfLine? l = some none ↔ decode? l = none := by
  rw [answerOfLine?]
  split
  · next h => simp [h]
  · next h => split <;> simp [h]

theorem answersNoWord_iff {l : List UInt8} :
    (∀ a, answerOfLine? l = some a → a = none) ↔ ∀ s, decode? l = some s → trim s = "" := by
  rw [answerOfLine?]
  split
  · next h => simp [h]
  · next s h => split <;> simp_all

theorem toList_map_answersAfter (k : Nat) (e : Enumeration (List UInt8)) :
    (WordList.answersAfter k e).toList.map Except.toOption = e.toList.filterMap answerOfLine? := by
  induction e generalizing k with
  | done => rfl
  | found l e ih =>
    rw [WordList.answersAfter, Enumeration.toList_found, filterMap_cons, answerOfLine?]
    cases decode? l with
    | none => exact congrArg (none :: ·) (ih () k)
    | some s =>
      by_cases hs : trim s = ""
      · simp [hs, ih]
      · simp [hs, ih, Except.toOption]

namespace WordList

/-- The answers still to come before there are only empty ones. A directory has none at all. -/
def pending (w : WordList) : List (Option String) :=
  match w.answers? with
  | none => []
  | some e => e.toList.map Except.toOption

def after (w : WordList) : Nat → WordList
  | 0 => w
  | k+1 => (w.after k).next.2

def poll (w : WordList) (k : Nat) : Option String := (w.after k).next.1.1

theorem next_pending (w : WordList) :
    w.next.1.1 = w.pending.head?.join ∧ w.next.2.pending = w.pending.tail := by
  obtain ⟨path, answers?⟩ := w
  cases answers? with
  | none => exact ⟨rfl, rfl⟩
  | some e =>
    cases e with
    | done => exact ⟨rfl, rfl⟩
    | found a r => cases a <;> exact ⟨rfl, rfl⟩

theorem pending_after (w : WordList) (k : Nat) : (w.after k).pending = w.pending.drop k := by
  induction k with
  | zero => rfl
  | succ k ih => rw [after, (w.after k).next_pending.2, ih, tail_drop]

theorem poll_eq (w : WordList) (k : Nat) : w.poll k = w.pending[k]?.join := by
  rw [poll, (w.after k).next_pending.1, pending_after, head?_drop]

theorem pending_ofBytes (path : String) (data : List UInt8) :
    (ofBytes path data).pending = (data.splitOn 10).filterMap answerOfLine? := by
  have hp : (ofBytes path data).pending = (linesFrom [] data).toList.filterMap answerOfLine? :=
    toList_map_answersAfter 0 _
  cases splitOn_lines data with
  | inl h => rw [hp, h]
  | inr h =>
    rw [hp, h, filterMap_append]
    exact (append_nil _).symm

def StaysEnded (w : WordList) : Prop := ∀ j k, j ≤ k → w.poll j = none → w.poll k = none

theorem staysEnded_iff_pairwise (w : WordList) :
    w.StaysEnded ↔ w.pending.Pairwise fun a b => a = none → b = none := by
  rw [pairwise_iff_getElem]
  constructor
  · intro h i j hi hj hij ha
    have hn : w.poll i = none := by rw [poll_eq, getElem?_eq_getElem hi, ha]; rfl
    have hr := h i j (Nat.le_of_lt hij) hn
    rwa [poll_eq, getElem?_eq_getElem hj] at hr
  · intro h j k hjk hn
    -- Past what is pending all calls have no word, whatever came before.
    by_cases hk : k < w.pending.length
    · cases Nat.eq_or_lt_of_le hjk with
      | inl he => exact he ▸ hn
      | inr hlt =>
        have hj : j < w.pending.length := Nat.lt_trans hlt hk
        rw [poll_eq, getElem?_eq_getElem hj] at hn
        rw [poll_eq, getElem?_eq_getElem hk]
        exact h j k hj hk hlt hn
    · rw [poll_eq, getElem?_eq_none (Nat.le_of_not_lt hk)]
      rfl

/-- The calls give what the lines are, one by one: words of readable lines and nothing for each that
is not. So the list stays ended just when no word comes after a line that cannot be read. -/
theorem polls_follow_lines (path : String) (data : List UInt8) :
    (∀ k, (ofBytes path data).poll k = ((data.splitOn 10).filterMap answerOfLine?)[k]?.join) ∧
    ((ofBytes path data).StaysEnded ↔
      (data.splitOn 10).Pairwise fun l m =>
        decode? l = none → ∀ s, decode? m = some s → trim s = "") := by
  constructor
  · intro k
    rw [poll_eq, pending_ofBytes]
  · rw [staysEnded_iff_pairwise, pending_ofBytes, pairwise_filterMap]
    simp only [← answersNoWord_iff, ← answerOfLine?_eq_some_none]
    refine iff_of_eq (congrArg₂ Pairwise ?_ rfl)
    funext l m
    refine propext ⟨fun h hl a ha => h none hl a ha rfl, ?_⟩
    rintro h a hl b hb rfl
    exact h hl b hb

theorem not_staysEnded : ¬ (ofBytes "words" [0x61, 10, 0xFF, 10, 0x62]).StaysEnded := by
  intro h
  have hn : (ofBytes "words" [0x61, 10, 0xFF, 10, 0x62]).poll 1 = none := by decide +kernel
  have hs : (ofBytes "words" [0x61, 10, 0xFF, 10, 0x62]).poll 2 = some "b" := by decide +kernel
  rw [h 1 2 (by decide) hn] at hs
  cases hs

end WordList
end Initialism
