import Initialism.Pattern.Basic

/-! Expression text as tokens. Offsets count the bytes of the text in UTF-8. A character that
belongs to no token has an entry of its own, and the tokens go on after it. -/
namespace Initialism

inductive Token.Kind where
  | opening (g : Group)
  | closing (g : Group)
  | question
  | period
  | word
deriving DecidableEq, Repr

def Token.Kind.ofChar? : Char → Option Token.Kind
  | '<' => some (.opening .sequence)
  | '>' => some (.closing .sequence)
  | '[' => some (.opening .allOf)
  | ']' => some (.closing .allOf)
  | '{' => some (.opening .anySubset)
  | '}' => some (.closing .anySubset)
  | '(' => some (.opening .oneOf)
  | ')' => some (.closing .oneOf)
  | '?' => some .question
  | '.' => some .period
  | _ => none

def Token.Kind.char? : Token.Kind → Option Char
  | .opening g => some g.opening
  | .closing g => some g.closing
  | .question => some '?'
  | .period => some '.'
  | .word => none

theorem Token.Kind.ofChar?_eq_some {c : Char} {k : Token.Kind} :
    ofChar? c = some k ↔ k.char? = some c := by
  constructor
  · intro h
    unfold ofChar? at h
    split at h <;> cases h <;> rfl
  · intro h
    cases k with
    | opening g => cases g <;> cases h <;> rfl
    | closing g => cases g <;> cases h <;> rfl
    | question => cases h; rfl
    | period => cases h; rfl
    | word => cases h

structure Span where
  start : Nat
  stop : Nat
deriving DecidableEq, Repr

structure Token where
  kind : Token.Kind
  lexeme : String
  start : Nat
deriving DecidableEq, Repr

namespace Token

def stop (t : Token) : Nat := t.start + t.lexeme.utf8ByteSize
def span (t : Token) : Span := ⟨t.start, t.stop⟩

def initial (t : Token) : Char := t.lexeme.toList.head?.getD (Char.ofNat 0xFFFD)

def opens? (t : Token) : Option Group :=
  match t.kind with
  | .opening g => some g
  | _ => none

def closes? (t : Token) : Option Group :=
  match t.kind with
  | .closing g => some g
  | _ => none

theorem span_ofChar (k : Token.Kind) (c : Char) (pos : Nat) :
    (mk k (.singleton c) pos).span = ⟨pos, pos + c.utf8Size⟩ := by
  simp [span, stop]

end Token

inductive Entry where
  | token (t : Token)
  | illegal (c : Char) (start : Nat)
deriving DecidableEq, Repr

namespace Entry

def span : Entry → Span
  | token t => t.span
  | illegal c p => ⟨p, p + c.utf8Size⟩

/-- A word that ends before `pos`, from its letters in reverse; no letters are no word. -/
def word? (pos : Nat) : List Char → Option Entry
  | [] => none
  | w => some (.token ⟨.word, String.ofList w.reverse, pos - w.length⟩)

def ofChar? (pos : Nat) (c : Char) : Option Entry :=
  if c.isWhitespace then none
  else
    match Token.Kind.ofChar? c with
    | some k => some (.token ⟨k, c.toString, pos⟩)
    | none => some (.illegal c pos)

theorem isWhitespace_of_ofChar?_none {pos : Nat} {c : Char} (h : ofChar? pos c = none) :
    c.isWhitespace := by
  rw [ofChar?] at h
  split at h
  · next hb => exact hb
  · split at h <;> cases h

theorem ofChar?_cases {pos : Nat} {c : Char} {e : Entry} (h : ofChar? pos c = some e) :
    ¬ c.isWhitespace ∧ (Token.Kind.ofChar? c = none ∧ e = .illegal c pos ∨
      ∃ k, Token.Kind.ofChar? c = some k ∧ e = .token ⟨k, c.toString, pos⟩) := by
  rw [ofChar?] at h
  split at h
  · cases h
  · next hb =>
    refine ⟨hb, ?_⟩
    split at h
    · next k hk => exact .inr ⟨k, hk, (Option.some.inj h).symm⟩
    · next hk => exact .inl ⟨hk, (Option.some.inj h).symm⟩

/-- The entries of a text that starts at `pos` and before which the letters `w`, in reverse, are
read already. -/
def scan (pos : Nat) (w : List Char) : List Char → List Entry
  | [] => (word? pos w).toList
  | c :: r =>
    if c.isAlpha then scan (pos + 1) (c :: w) r
    else (word? pos w).toList ++ (ofChar? pos c).toList ++ scan (pos + c.utf8Size) [] r

end Entry

def tokenize (source : String) : List Entry := Entry.scan 0 [] source.toList

end Initialism
