/-! Finite lists whose elements are found one at a time. Nothing past the first element is
computed until it is asked for; `toList` forgets this and is the view for all proofs. -/
namespace Initialism

inductive Enumeration (α : Type u) where
  | done
  | found (head : α) (tail : Unit → Enumeration α)

namespace Enumeration
variable {α : Type u} {β : Type v}

def toList : Enumeration α → List α
  | done => []
  | found a r => a :: (r ()).toList

def ofList : List α → Enumeration α
  | [] => done
  | a :: l => found a fun _ => ofList l

def single (a : α) : Enumeration α := found a fun _ => done

def append : Enumeration α → (Unit → Enumeration α) → Enumeration α
  | done, s => s ()
  | found a r, s => found a fun _ => append (r ()) s

def map (f : α → β) : Enumeration α → Enumeration β
  | done => done
  | found a r => found (f a) fun _ => map f (r ())

def filter (p : α → Bool) : Enumeration α → Enumeration α
  | done => done
  | found a r => if p a then found a fun _ => filter p (r ()) else filter p (r ())

/- Elements without an image are passed over in a loop, however many there are. -/
def flatMap (f : α → Enumeration β) : Enumeration α → Enumeration β
  | done => done
  | found a r =>
    match f a with
    | done => flatMap f (r ())
    | found b s => found b fun _ => append (s ()) fun _ => flatMap f (r ())

/-- The first `n` elements, and whether there are more. -/
def window : Nat → Enumeration α → List α × Bool
  | _, done => ([], false)
  | 0, found _ _ => ([], true)
  | n+1, found a r =>
    let w := window n (r ())
    (a :: w.1, w.2)

def countUpTo (n : Nat) (e : Enumeration α) : Nat := go 0 n e
where
  go (k : Nat) : Nat → Enumeration α → Nat
    | 0, _ => k
    | _, done => k
    | n+1, found _ r => go (k+1) n (r ())

@[simp] theorem toList_done : (done : Enumeration α).toList = [] := rfl
@[simp] theorem toList_found (a : α) (r : Unit → Enumeration α) :
    (found a r).toList = a :: (r ()).toList := rfl
@[simp] theorem toList_single (a : α) : (single a).toList = [a] := rfl

@[simp] theorem toList_ofList (l : List α) : (ofList l).toList = l := by
  induction l with
  | nil => rfl
  | cons a l ih => simp [ofList, ih]

@[simp] theorem toList_append (e : Enumeration α) (s : Unit → Enumeration α) :
    (e.append s).toList = e.toList ++ (s ()).toList := by
  induction e with
  | done => rfl
  | found a r ih => simp [append, ih]

@[simp] theorem toList_map (f : α → β) (e : Enumeration α) :
    (e.map f).toList = e.toList.map f := by
  induction e with
  | done => rfl
  | found a r ih => simp [map, ih]

@[simp] theorem toList_filter (p : α → Bool) (e : Enumeration α) :
    (e.filter p).toList = e.toList.filter p := by
  induction e with
  | done => rfl
  | found a r ih => by_cases h : p a <;> simp [filter, h, ih]

@[simp] theorem toList_flatMap (f : α → Enumeration β) (e : Enumeration α) :
    (e.flatMap f).toList = e.toList.flatMap fun a => (f a).toList := by
  induction e with
  | done => rfl
  | found a r ih =>
    rw [flatMap]
    split
    · next h => simp [h, ih]
    · next h => simp [h, ih]

theorem window_eq (n : Nat) (e : Enumeration α) :
    e.window n = (e.toList.take n, decide (n < e.toList.length)) := by
  induction e generalizing n with
  | done => cases n <;> simp [window]
  | found a r ih => cases n <;> simp [window, ih]

theorem countUpTo.go_eq (k n : Nat) (e : Enumeration α) :
    countUpTo.go k n e = k + min n e.toList.length := by
  induction e generalizing k n with
  | done => cases n <;> simp [countUpTo.go]
  | found a r ih =>
    cases n with
    | zero => simp [countUpTo.go]
    | succ n => simp [countUpTo.go, ih]; omega

theorem countUpTo_eq (n : Nat) (e : Enumeration α) :
    e.countUpTo n = min n e.toList.length := by
  simp [countUpTo, countUpTo.go_eq]

end Enumeration
end Initialism
