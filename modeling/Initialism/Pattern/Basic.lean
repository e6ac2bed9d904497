/-! Patterns: trees of words, wildcards, optional parts and groups. A leaf takes one letter of a
candidate word; the rest says which leaves are used, and in which order. -/
namespace Initialism

inductive Group where
  /-- every child, in order -/
  | sequence
  /-- every child once, in any order -/
  | allOf
  /-- any of the children, each at most once, in any order -/
  | anySubset
  /-- exactly one child -/
  | oneOf
deriving DecidableEq, Repr

namespace Group

def opening : Group → Char
  | sequence => '<'
  | allOf => '['
  | anySubset => '{'
  | oneOf => '('

def closing : Group → Char
  | sequence => '>'
  | allOf => ']'
  | anySubset => '}'
  | oneOf => ')'

end Group

inductive Pattern where
  | literal (word : String)
  | wildcard
  | optional (child : Pattern)
  | group (kind : Group) (children : List Pattern)
deriving Repr

namespace Pattern

@[elab_as_elim, induction_eliminator]
theorem induction {motive : Pattern → Prop} (literal : ∀ w, motive (literal w))
    (wildcard : motive wildcard) (optional : ∀ p, motive p → motive (optional p))
    (group : ∀ g ps, (∀ p ∈ ps, motive p) → motive (group g ps)) (p : Pattern) : motive p :=
  @Pattern.rec motive (fun ps => ∀ p ∈ ps, motive p) literal wildcard optional group (by simp)
    (fun _ _ hp hps => List.forall_mem_cons.2 ⟨hp, hps⟩) p

def isLeaf : Pattern → Bool
  | literal _ | wildcard => true
  | optional _ | group _ _ => false

def group? : Pattern → Option Group
  | group g _ => some g
  | _ => none

def children : Pattern → List Pattern
  | literal _ | wildcard => []
  | optional p => [p]
  | group _ ps => ps

def total (ns : List Nat) : Nat := ns.foldr (· + ·) 0

mutual
def minLength : Pattern → Nat
  | literal _ | wildcard => 1
  | optional _ => 0
  | group .sequence ps | group .allOf ps => total (minLengths ps)
  | group .anySubset _ => 0
  | group .oneOf ps => (minLengths ps).min?.getD 0
def minLengths : List Pattern → List Nat
  | [] => []
  | p :: ps => p.minLength :: minLengths ps
end

mutual
def maxLength : Pattern → Nat
  | literal _ | wildcard => 1
  | optional p => p.maxLength
  | group .sequence ps | group .allOf ps | group .anySubset ps => total (maxLengths ps)
  | group .oneOf ps => (maxLengths ps).max?.getD 0
def maxLengths : List Pattern → List Nat
  | [] => []
  | p :: ps => p.maxLength :: maxLengths ps
end

mutual
def chars : Pattern → List Char
  | literal w => w.toList
  | wildcard => ['.']
  | optional p => p.chars ++ ['?']
  | group g ps => g.opening :: (spaced ps ++ [g.closing])
def spaced : List Pattern → List Char
  | [] => []
  | [p] => p.chars
  | p :: q :: ps => p.chars ++ ' ' :: spaced (q :: ps)
end

def render (p : Pattern) : String := String.ofList p.chars

mutual
def nodes : Pattern → List Pattern
  | literal w => [literal w]
  | wildcard => [wildcard]
  | optional p => optional p :: p.nodes
  | group g ps => group g ps :: nodesOf ps
def nodesOf : List Pattern → List Pattern
  | [] => []
  | p :: ps => p.nodes ++ nodesOf ps
end

mutual
def same : Pattern → Pattern → Bool
  | literal v, literal w => v == w
  | wildcard, wildcard => true
  | optional p, optional q => p.same q
  | group g ps, group h qs => g == h && sameAll ps qs
  | _, _ => false
def sameAll : List Pattern → List Pattern → Bool
  | [], [] => true
  | p :: ps, q :: qs => p.same q && sameAll ps qs
  | _, _ => false
end

@[simp] theorem minLengths_eq (ps : List Pattern) : minLengths ps = ps.map minLength := by
  induction ps with
  | nil => rfl
  | cons p ps ih => simp [minLengths, ih]

@[simp] theorem maxLengths_eq (ps : List Pattern) : maxLengths ps = ps.map maxLength := by
  induction ps with
  | nil => rfl
  | cons p ps ih => simp [maxLengths, ih]

theorem nodesOf_eq (ps : List Pattern) : nodesOf ps = ps.flatMap nodes := by
  induction ps with
  | nil => rfl
  | cons p ps ih => rw [nodesOf, ih, List.flatMap_cons]

mutual
theorem same_self : ∀ p : Pattern, p.same p = true
  | literal w => by simp [same]
  | wildcard => rfl
  | optional p => by simpa [same] using same_self p
  | group g ps => by simpa [same] using sameAll_self ps
theorem sameAll_self : ∀ ps : List Pattern, sameAll ps ps = true
  | [] => rfl
  | p :: ps => by simp [sameAll, same_self p, sameAll_self ps]
end

mutual
theorem eq_of_same : ∀ {p q : Pattern}, p.same q = true → p = q
  | literal v, literal w, h => by simpa [same] using h
  | wildcard, wildcard, _ => rfl
  | optional p, optional q, h => by
    rw [same] at h
    rw [eq_of_same h]
  | group g ps, group k qs, h => by
    simp only [same, Bool.and_eq_true, beq_iff_eq] at h
    rw [h.1, eq_of_sameAll h.2]
  | literal _, wildcard, h | literal _, optional _, h | literal _, group _ _, h
  | wildcard, literal _, h | wildcard, optional _, h | wildcard, group _ _, h
  | optional _, literal _, h | optional _, wildcard, h | optional _, group _ _, h
  | group _ _, literal _, h | group _ _, wildcard, h | group _ _, optional _, h => by
    simp [same] at h
theorem eq_of_sameAll : ∀ {ps qs : List Pattern}, sameAll ps qs = true → ps = qs
  | [], [], _ => rfl
  | p :: ps, q :: qs, h => by
    simp only [sameAll, Bool.and_eq_true] at h
    rw [eq_of_same h.1, eq_of_sameAll h.2]
  | [], _ :: _, h | _ :: _, [], h => by simp [sameAll] at h
end

theorem same_iff {p q : Pattern} : p.same q = true ↔ p = q :=
  ⟨eq_of_same, by rintro rfl; exact same_self p⟩

instance : DecidableEq Pattern := fun _ _ => decidable_of_iff _ same_iff

end Pattern
end Initialism
