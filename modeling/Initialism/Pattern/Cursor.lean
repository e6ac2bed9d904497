import Initialism.Pattern.Token

/-! Reading tokens with one token of lookahead and any number put back. -/
namespace Initialism

/-- The tokens put back or looked at, next first, and the entries not read so far. -/
structure Cursor where
  held : List Token
  unread : List Entry
deriving DecidableEq, Repr

namespace Cursor

def ofSource (source : String) : Cursor := ⟨[], tokenize source⟩

def toList (k : Cursor) : List Entry := k.held.map .token ++ k.unread

def pop (k : Cursor) : Option Entry × Cursor :=
  match k.held, k.unread with
  | t :: h, u => (some (.token t), ⟨h, u⟩)
  | [], e :: u => (some e, ⟨[], u⟩)
  | [], [] => (none, k)

/-- Looks at the next entry. A token stays; an illegal character cannot be held and is gone. -/
def peek (k : Cursor) : Option Entry × Cursor :=
  match k.held, k.unread with
  | t :: _, _ => (some (.token t), k)
  | [], .token t :: u => (some (.token t), ⟨[t], u⟩)
  | [], .illegal c p :: u => (some (.illegal c p), ⟨[], u⟩)
  | [], [] => (none, k)

def unget (k : Cursor) (t : Token) : Cursor := ⟨t :: k.held, k.unread⟩

def length (k : Cursor) : Nat := k.toList.length

@[simp] theorem toList_ofSource (source : String) : (ofSource source).toList = tokenize source :=
  rfl

@[simp] theorem toList_unget (k : Cursor) (t : Token) :
    (k.unget t).toList = .token t :: k.toList := rfl

@[simp] theorem fst_pop (k : Cursor) : k.pop.1 = k.toList.head? := by
  obtain ⟨h, u⟩ := k
  cases h <;> cases u <;> rfl

@[simp] theorem toList_snd_pop (k : Cursor) : k.pop.2.toList = k.toList.tail := by
  obtain ⟨h, u⟩ := k
  cases h <;> cases u <;> rfl

theorem peek_spec (k : Cursor) : k.peek.1 = k.toList.head? ∧ k.peek.2.toList =
    match k.toList with
    | .illegal _ _ :: u => u
    | es => es := by
  obtain ⟨h, u⟩ := k
  cases h with
  | cons t h => exact ⟨rfl, rfl⟩
  | nil =>
    cases u with
    | nil => exact ⟨rfl, rfl⟩
    | cons e u => cases e <;> exact ⟨rfl, rfl⟩

theorem toList_of_pop {k r : Cursor} {e : Entry} (h : k.pop = (some e, r)) :
    k.toList = e :: r.toList := by
  have h₁ := k.fst_pop
  have h₂ := k.toList_snd_pop
  rw [h] at h₁ h₂
  cases hk : k.toList <;> simp_all

theorem toList_of_pop_none {k r : Cursor} (h : k.pop = (none, r)) :
    k.toList = [] ∧ r.toList = [] := by
  have h₁ := k.fst_pop
  have h₂ := k.toList_snd_pop
  rw [h] at h₁ h₂
  cases hk : k.toList <;> simp_all

theorem length_of_pop {k r : Cursor} {e : Entry} (h : k.pop = (some e, r)) :
    r.length + 1 = k.length := by
  rw [length, length, toList_of_pop h, List.length_cons]

theorem length_pop_le (k : Cursor) : k.pop.2.length ≤ k.length := by
  simp [length]

theorem length_of_peek {k r : Cursor} {e : Option Entry} (h : k.peek = (e, r)) :
    r.length ≤ k.length := by
  have hr := k.peek_spec.2
  rw [h] at hr
  rw [length, length, hr]
  split
  · next h => simp [h]
  · exact Nat.le_refl _

theorem toList_of_peek {k r : Cursor} {t : Token} (h : k.peek = (some (.token t), r)) :
    k.toList = r.toList ∧ ∃ es, r.toList = .token t :: es := by
  have hk := k.peek_spec
  rw [h] at hk
  obtain ⟨es, hes⟩ := List.head?_eq_some_iff.1 hk.1.symm
  rw [hes] at hk ⊢
  exact ⟨hk.2.symm, es, hk.2⟩

end Cursor
end Initialism
