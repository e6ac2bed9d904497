import Initialism.Proofs.Match.Initials
import Initialism.Proofs.Run.Eager

/-! A run over a list of words, in which nothing pauses before all words are used up. Its acronyms
are those that the words give one after the other, each word in view of the names given before
it. -/
namespace Initialism
open List

def Run.overWords (root : Pattern) (words : List String) (m : Nat) : Run :=
  (ofAnswers root fun _ => .ofList (words.map some)).atLeast m

def Pattern.acronymsOver (root : Pattern) (words : List String) (m : Nat) : List Acronym :=
  (Run.overWords root words m).acronyms.toList

/-- What the words give when the names in `guard` are handed out already. -/
def Pattern.gives (p : Pattern) (m : Nat) (guard : List String) : List String → List Acronym
  | [] => []
  | w :: ws => p.given m guard w ++ p.gives m (guard ++ (p.given m guard w).map Acronym.name) ws

def upToPause : List Observation → List Acronym
  | [] => []
  | o :: os =>
    match o.acronym? with
    | none => []
    | some a => a :: upToPause os

theorem upToPause_map_append (as : List Acronym) (k : Nat) (l : List (Option String))
    (os : List Observation) :
    upToPause (as.map (fun a => ⟨some a, k, l⟩) ++ os) = as ++ upToPause os := by
  induction as with
  | nil => rfl
  | cons a as ih => exact congrArg (a :: ·) ih

namespace Run
variable {m : Nat}

theorem toList_acronyms {r : Run} (hb : r.Bounded m) :
    r.acronyms.toList = upToPause (r.owed m) := by
  obtain ⟨hb', -, ho⟩ := hb.answers
  rw [acronyms]
  split
  · next a ev s h =>
    have hs : s.Bounded m := by
      rw [h] at hb'
      exact hb'
    have ha : r.observation.acronym? = some a := by rw [observation, h]
    cases ho with
    | inl ho =>
      rw [ho.2.1] at ha
      cases ha
    | inr ho => rw [ho, upToPause, ha, h, Enumeration.toList_found, toList_acronyms hs]
  · next ev s h =>
    have ha : r.observation.acronym? = none := by rw [observation, h]
    cases ho with
    | inl ho =>
      rw [ho.1]
      rfl
    | inr ho =>
      rw [ho, upToPause, ha]
      rfl
termination_by r.unseen
decreasing_by exact unseen_of_next ‹_›

theorem owed_ofAnswers (root : Pattern) (answers : Unit → Enumeration (Option String)) (m : Nat) :
    ((ofAnswers root answers).atLeast m).owed m = root.eager m [] 0 (answers ()).toList := by
  have hn : (∅ : Std.TreeSet String).toList = [] := rfl
  simp [owed, pending, left, ofAnswers, atLeast, hn]

variable (root : Pattern) (words : List String) (m : Nat)

theorem bounded_overWords : (overWords root words m).Bounded m := ⟨rfl, rfl⟩

theorem owed_overWords : (overWords root words m).owed m = root.eager m [] 0 (words.map some) := by
  rw [overWords, owed_ofAnswers, Enumeration.toList_ofList]

/-- An acronym is seen where the words give it; past these, nothing but pauses is. -/
theorem mem_eager_of_mem_observe {n : Nat} {o : Observation} {a : Acronym}
    (h : o ∈ (overWords root words m).observe n) (ha : o.acronym? = some a) :
    o ∈ root.eager m [] 0 (words.map some) := by
  rw [observe_eq_take (bounded_overWords root words m), owed_overWords] at h
  cases mem_append.1 (mem_of_mem_take h) with
  | inl h => exact h
  | inr h =>
    rw [eq_of_mem_replicate h] at ha
    cases ha

end Run

namespace Pattern
variable {p : Pattern} {m : Nat} {a : Acronym}

theorem upToPause_eager (g : List String) (k : Nat) (ws : List String) :
    upToPause (p.eager m g k (ws.map some)) = p.gives m g ws := by
  induction ws generalizing g k with
  | nil => rfl
  | cons w ws ih => rw [map_cons, eager, upToPause_map_append, ih, gives]

theorem acronymsOver_eq_gives (root : Pattern) (words : List String) (m : Nat) :
    root.acronymsOver words m = root.gives m [] words := by
  rw [acronymsOver, Run.toList_acronyms (Run.bounded_overWords root words m), Run.owed_overWords,
    upToPause_eager]

theorem length_items_of_mem_acronymsOf {w : String} (h : a ∈ p.acronymsOf w) :
    a.items.length = w.length := by
  obtain ⟨x, hx, rfl⟩ := mem_map.1 h
  have ht := (spells_of_mem_spellings hx).forall₂_contributes.length_eq
  rw [Match.acronym, length_map, ht, Letters.ofString, Letters.toList_ofList, String.length_toList]

theorem exists_begins_of_mem_acronymsOf {w : String} (h : a ∈ p.acronymsOf w) :
    ∃ ds, Forall₂ p.Begins w.toList ds ∧ a.name = String.ofList (ds.flatMap Text.upper) := by
  obtain ⟨x, hx, rfl⟩ := mem_map.1 h
  have hb := (spells_of_mem_spellings hx).forall₂_begins
  rw [Letters.ofString, Letters.toList_ofList] at hb
  exact ⟨_, hb, rfl⟩

theorem mem_given {g : List String} {w : String} :
    a ∈ p.given m g w ↔ Text.upperText w ∉ g ∧ m ≤ w.length ∧ a ∈ p.acronymsOf w := by
  rw [given]
  split
  · next h =>
    have hn : ¬ (Text.upperText w ∉ g ∧ m ≤ w.length) := fun hw => h.elim hw.1 (by omega)
    simp [← and_assoc, hn]
  · next h =>
    obtain ⟨hg, hm⟩ := not_or.1 h
    simp [hg, Nat.not_lt.1 hm]

theorem exists_mem_acronymsOf_of_mem_gives {g ws : List String} (h : a ∈ p.gives m g ws) :
    ∃ w ∈ ws, a ∈ p.acronymsOf w := by
  induction ws generalizing g with
  | nil => cases h
  | cons w ws ih =>
    cases mem_append.1 h with
    | inl h => exact ⟨w, mem_cons_self, (mem_given.1 h).2.2⟩
    | inr h =>
      obtain ⟨v, hv, ha⟩ := ih h
      exact ⟨v, mem_cons_of_mem w hv, ha⟩

end Pattern
end Initialism
