import Initialism.Proofs.Pattern.OnePass
import Initialism.Text.Utf8

/-! Where reading fails. A scan goes over the characters of the text once and remembers no more
than the open groups, where their brackets stand, and how many terms there are at each level. The
fault of an expression is the first offence that such a scan meets. -/
namespace Initialism

structure OpenGroup where
  group : Group
  span : Span
  before : Nat
deriving DecidableEq, Repr

/-- The bytes gone over, whether the last character was a letter, the open groups, innermost
first, and the number of terms at the innermost level. -/
structure Scan where
  position : Nat
  inWord : Bool
  groups : List OpenGroup
  terms : Nat
deriving DecidableEq, Repr

namespace Scan

def start : Scan := ⟨0, false, [], 0⟩

def span (s : Scan) (c : Char) : Span := ⟨s.position, s.position + c.utf8Size⟩

def offence? (s : Scan) (c : Char) : Option Fault :=
  if c.isAlpha || c.isWhitespace then none
  else
    match Token.Kind.ofChar? c with
    | none => some ⟨.illegalCharacter c, s.span c⟩
    | some .question => if s.terms = 0 then some ⟨.danglingOptional, s.span c⟩ else none
    | some (.closing g) =>
      match s.groups with
      | [] => some ⟨.unexpectedDelimiter c, s.span c⟩
      | o :: _ =>
        if g = o.group then
          if s.terms = 0 then some ⟨.emptyExpression, o.span⟩ else none
        else some ⟨.unclosedGroup o.group, o.span⟩
    | some _ => none

/-- The scan past `c`, where that is no offence. A word is a term from its first letter on, and a
group is one from its closing bracket on. -/
def advance (s : Scan) (c : Char) : Scan :=
  let past := { s with position := s.position + c.utf8Size, inWord := c.isAlpha }
  if c.isAlpha then { past with terms := if s.inWord then s.terms else s.terms + 1 }
  else if c.isWhitespace then past
  else
    match Token.Kind.ofChar? c, s.groups with
    | some (.opening g), _ => { past with groups := ⟨g, s.span c, s.terms⟩ :: s.groups, terms := 0 }
    | some (.closing _), o :: os => { past with groups := os, terms := o.before + 1 }
    | some .period, _ => { past with terms := s.terms + 1 }
    | _, _ => past

def after? (s : Scan) : List Char → Option Scan
  | [] => some s
  | c :: cs => if (s.offence? c).isSome then none else (s.advance c).after? cs

def atEnd? (s : Scan) : Option Fault :=
  match s.groups with
  | o :: _ => some ⟨.unclosedGroup o.group, o.span⟩
  | [] => if s.terms = 0 then some ⟨.emptyExpression, ⟨0, s.position⟩⟩ else none

/-- Going on over the text `cs`, the first offence is `f`: one of its characters, with none before
it, or else its end. -/
def FirstOffence (s : Scan) (cs : List Char) (f : Fault) : Prop :=
  (∃ u c v t, cs = u ++ c :: v ∧ s.after? u = some t ∧ t.offence? c = some f) ∨
    ∃ t, s.after? cs = some t ∧ t.atEnd? = some f

variable {s : Scan} {c : Char} {cs : List Char} {f : Fault}

@[simp] theorem firstOffence_nil : s.FirstOffence [] f ↔ s.atEnd? = some f := by
  simp [FirstOffence, after?]

theorem after?_cons {t : Scan} :
    s.after? (c :: cs) = some t ↔ s.offence? c = none ∧ (s.advance c).after? cs = some t := by
  cases h : s.offence? c <;> simp [after?, h]

theorem firstOffence_cons : s.FirstOffence (c :: cs) f ↔
    s.offence? c = some f ∨ s.offence? c = none ∧ (s.advance c).FirstOffence cs f := by
  constructor
  · intro h
    rcases h with ⟨u, d, v, t, hc, ht, hd⟩ | ⟨t, ht, he⟩
    · cases u with
      | nil =>
        obtain ⟨rfl, -⟩ := List.cons.inj hc
        obtain rfl := Option.some.inj ht
        exact .inl hd
      | cons d' u =>
        obtain ⟨rfl, rfl⟩ := List.cons.inj hc
        obtain ⟨hn, ht⟩ := after?_cons.1 ht
        exact .inr ⟨hn, .inl ⟨u, d, v, t, rfl, ht, hd⟩⟩
    · obtain ⟨hn, ht⟩ := after?_cons.1 ht
      exact .inr ⟨hn, .inr ⟨t, ht, he⟩⟩
  · intro h
    rcases h with h | ⟨hn, ⟨u, d, v, t, rfl, ht, hd⟩ | ⟨t, ht, he⟩⟩
    · exact .inl ⟨[], c, cs, s, rfl, rfl, h⟩
    · exact .inl ⟨c :: u, d, v, t, rfl, after?_cons.2 ⟨hn, ht⟩, hd⟩
    · exact .inr ⟨t, after?_cons.2 ⟨hn, ht⟩, he⟩

theorem firstOffence_cons_of_some {f' : Fault} (h : s.offence? c = some f') :
    s.FirstOffence (c :: cs) f ↔ f' = f := by
  simp [firstOffence_cons, h]

theorem firstOffence_cons_of_none (h : s.offence? c = none) :
    s.FirstOffence (c :: cs) f ↔ (s.advance c).FirstOffence cs f := by
  simp [firstOffence_cons, h]

/-- The scan that has seen what led to a reading and, after that, the letters `w`, in reverse, of a
word that may go on. -/
def ofReading (r : Reading) (pos : Nat) (w : List Char) : Scan where
  position := pos
  inWord := !w.isEmpty
  groups := r.frames.map fun x => ⟨x.group, x.opening.span, x.before.length⟩
  terms := r.terms.length + if w.isEmpty then 0 else 1

end Scan

namespace Reading

/-- The reading once the word that its next letters would go on with is over. -/
def flush (r : Reading) (w : List Char) : Reading :=
  if w.isEmpty then r else r.push (.literal (String.ofList w.reverse))

variable {r : Reading} {size pos : Nat} {w : List Char}

theorem outcome_word?_append (es : List Entry) :
    r.outcome size ((Entry.word? pos w).toList ++ es) = (r.flush w).outcome size es := by
  cases w with
  | nil => rfl
  | cons c w => exact outcome_cons_of_ok rfl

theorem ofReading_flush :
    Scan.ofReading (r.flush w) pos [] = { Scan.ofReading r pos w with inWord := false } := by
  cases w <;> rfl

end Reading

namespace Scan
variable {r : Reading} {size pos : Nat} {w : List Char} {c : Char} {cs : List Char} {f : Fault}

theorem offence?_letter (s : Scan) (h : c.isAlpha) : s.offence? c = none := by
  simp [offence?, h]

theorem offence?_ofReading_flush (c : Char) :
    (ofReading (r.flush w) pos []).offence? c = (ofReading r pos w).offence? c := by
  rw [Reading.ofReading_flush]
  rfl

theorem advance_ofReading_flush (h : ¬ c.isAlpha) :
    (ofReading (r.flush w) pos []).advance c = (ofReading r pos w).advance c := by
  rw [Reading.ofReading_flush]
  simp [advance, h, span]

theorem advance_ofReading_letter (h : c.isAlpha) :
    (ofReading r pos w).advance c = ofReading r (pos + 1) (c :: w) := by
  cases w <;> simp [advance, ofReading, h, Text.utf8Size_of_isAlpha h]

theorem step_blank (r : Reading) (pos : Nat) (h : ¬ c.isAlpha) (hb : c.isWhitespace) :
    (ofReading r pos []).offence? c = none ∧
      (ofReading r pos []).advance c = ofReading r (pos + c.utf8Size) [] := by
  simp [offence?, advance, ofReading, h, hb]

theorem step_ofChar (r : Reading) {e : Entry} (h : ¬ c.isAlpha)
    (he : Entry.ofChar? pos c = some e) :
    (∃ f, r.step e = .error f ∧ (ofReading r pos []).offence? c = some f) ∨
      ∃ r', r.step e = .ok r' ∧ (ofReading r pos []).offence? c = none ∧
        (ofReading r pos []).advance c = ofReading r' (pos + c.utf8Size) [] := by
  obtain ⟨fs, ps⟩ := r
  obtain ⟨hb, ⟨hk, rfl⟩ | ⟨k, hk, rfl⟩⟩ := Entry.ofChar?_cases he
  · exact .inl ⟨_, rfl, by simp [offence?, h, hb, hk, ofReading, span, Entry.span]⟩
  · cases k with
    | opening g =>
      refine .inr ⟨_, rfl, ?_, ?_⟩
      · simp [offence?, h, hb, hk]
      · simp [advance, h, hb, hk, ofReading, span, Token.span_ofChar]
    | closing g =>
      cases fs with
      | nil =>
        refine .inl ⟨_, rfl, ?_⟩
        simp [offence?, h, hb, hk, ofReading, span, Token.span_ofChar, Token.initial]
      | cons x fs =>
        -- The wrong kind of bracket comes before an empty group, in the scan as in the reading.
        by_cases hg : g = x.group
        · by_cases hp : ps = []
          · refine .inl ⟨⟨.emptyExpression, x.opening.span⟩, ?_, ?_⟩
            · simp [Reading.step, Reading.token, Reading.close, hg, hp]
            · simp [offence?, h, hb, hk, ofReading, hg, hp]
          · refine .inr ⟨⟨fs, .group x.group ps.reverse :: x.before⟩, ?_, ?_, ?_⟩
            · simp [Reading.step, Reading.token, Reading.close, hg, hp]
            · simp [offence?, h, hb, hk, ofReading, hg, hp]
            · simp [advance, h, hb, hk, ofReading]
        · refine .inl ⟨x.unclosed, ?_, ?_⟩
          · simp [Reading.step, Reading.token, Reading.close, hg]
          · simp [offence?, h, hb, hk, ofReading, hg, Frame.unclosed]
    | question =>
      cases ps with
      | nil =>
        exact .inl ⟨_, rfl, by simp [offence?, h, hb, hk, ofReading, span, Token.span_ofChar]⟩
      | cons p ps =>
        refine .inr ⟨_, rfl, ?_, ?_⟩
        · simp [offence?, h, hb, hk, ofReading]
        · simp [advance, h, hb, hk, ofReading]
    | period =>
      refine .inr ⟨_, rfl, ?_, ?_⟩
      · simp [offence?, h, hb, hk]
      · simp [advance, h, hb, hk, ofReading, Reading.push]
    | word => cases Token.Kind.ofChar?_eq_some.1 hk

theorem finish_eq_error_iff :
    r.finish pos = .error f ↔ (ofReading r pos []).atEnd? = some f := by
  obtain ⟨fs, ps⟩ := r
  match fs, ps with
  | x :: fs, ps => simp [Reading.finish, ofReading, atEnd?, Frame.unclosed]
  | [], [] => simp [Reading.finish, ofReading, atEnd?]
  | [], [p] => simp [Reading.finish, ofReading, atEnd?]
  | [], p :: p' :: ps => simp [Reading.finish, ofReading, atEnd?]

theorem firstOffence_flush (h : ¬ c.isAlpha) :
    (ofReading r pos w).FirstOffence (c :: cs) f ↔
      (ofReading (r.flush w) pos []).FirstOffence (c :: cs) f := by
  rw [firstOffence_cons, firstOffence_cons, offence?_ofReading_flush, advance_ofReading_flush h]

theorem outcome_scan_eq_error_iff (r : Reading) (pos : Nat) (w cs : List Char) :
    r.outcome (pos + (String.ofList cs).utf8ByteSize) (Entry.scan pos w cs) = .error f ↔
      (ofReading r pos w).FirstOffence cs f := by
  induction cs generalizing r pos w with
  | nil =>
    rw [Entry.scan, ← List.append_nil (Entry.word? pos w).toList, Reading.outcome_word?_append,
      String.ofList_nil, String.utf8ByteSize_empty, Nat.add_zero, firstOffence_nil]
    have he : (ofReading r pos w).atEnd? = (ofReading (r.flush w) pos []).atEnd? := by
      rw [Reading.ofReading_flush]
      rfl
    rw [he]
    exact finish_eq_error_iff
  | cons c cs ih =>
    rw [Text.utf8ByteSize_ofList_cons, ← Nat.add_assoc, Entry.scan]
    -- A letter is gathered in `w` and the reading stands still. Any other character first ends
    -- the word in `w`; then the scan and the reading take one step each.
    by_cases h : c.isAlpha
    · rw [if_pos h, firstOffence_cons_of_none (offence?_letter _ h), advance_ofReading_letter h,
        ← ih, Text.utf8Size_of_isAlpha h]
    · rw [if_neg h, List.append_assoc, Reading.outcome_word?_append, firstOffence_flush h]
      cases he : Entry.ofChar? pos c with
      | none =>
        have hb := Entry.isWhitespace_of_ofChar?_none he
        obtain ⟨ho, ha⟩ := step_blank (r.flush w) pos h hb
        rw [firstOffence_cons_of_none ho, ha, ← ih]
        rfl
      | some e =>
        rcases step_ofChar (r.flush w) h he with ⟨f', hs, ho⟩ | ⟨r', hs, ho, ha⟩
        · rw [firstOffence_cons_of_some ho, Option.toList_some, List.singleton_append,
            Reading.outcome_cons_of_error hs, Except.error.injEq]
        · rw [firstOffence_cons_of_none ho, ha, ← ih, Option.toList_some, List.singleton_append,
            Reading.outcome_cons_of_ok hs]

end Scan

namespace Pattern

/-- An expression is faulty if and only if a scan over its characters meets an offence, and then its
fault is the first one. -/
theorem parse_eq_error_iff (source : String) (f : Fault) :
    parse source = .error f ↔ Scan.start.FirstOffence source.toList f := by
  have hl : source.utf8ByteSize = 0 + (String.ofList source.toList).utf8ByteSize := by
    rw [Nat.zero_add, String.ofList_toList]
  rw [parse_eq_outcome, hl, tokenize, Scan.outcome_scan_eq_error_iff]
  rfl

end Pattern
end Initialism
