import Initialism.Pattern.Token

/-! Symbols are tokens apart from where they stand. A text has a sequence of symbols, and so has a
pattern: the one that it is written with. -/
namespace Initialism

structure Symbol where
  kind : Token.Kind
  lexeme : String
deriving DecidableEq, Repr

def Symbol.Fits (x : Symbol) : Prop :=
  match x.kind.char? with
  | some c => x.lexeme = c.toString
  | none => x.lexeme ≠ "" ∧ ∀ c ∈ x.lexeme.toList, c.isAlpha

def Token.symbol (t : Token) : Symbol := ⟨t.kind, t.lexeme⟩

def Token.isLegal (c : Char) : Bool :=
  c.isAlpha || c.isWhitespace || (Token.Kind.ofChar? c).isSome

namespace Entry

def symbol? : Entry → Option Symbol
  | token t => some t.symbol
  | illegal _ _ => none

@[simp] theorem symbol?_token (t : Token) : (token t).symbol? = some t.symbol := rfl

@[simp] theorem symbol?_illegal (c : Char) (pos : Nat) : (illegal c pos).symbol? = none := rfl

/-- The entries are tokens, and their symbols are `xs`. -/
def Show (es : List Entry) (xs : List Symbol) : Prop := es.map symbol? = xs.map some

variable {pos : Nat} {w cs : List Char} {c : Char} {e : Entry} {es : List Entry}
  {xs ys : List Symbol} {x : Symbol}

@[simp] theorem show_nil : Show es [] ↔ es = [] := by
  simp [Show]

theorem show_append : Show es (xs ++ ys) ↔ ∃ us vs, es = us ++ vs ∧ Show us xs ∧ Show vs ys := by
  simp [Show, List.map_eq_append_iff]

theorem show_cons :
    Show es (x :: xs) ↔ ∃ (t : Token) (us : List Entry),
      t.symbol = x ∧ es = .token t :: us ∧ Show us xs := by
  constructor
  · intro h
    obtain ⟨e, us, rfl, he, hu⟩ := List.map_eq_cons_iff.1 h
    cases e with
    | token t => exact ⟨t, us, Option.some.inj he, rfl, hu⟩
    | illegal c p => cases he
  · intro h
    obtain ⟨t, us, rfl, rfl, hu⟩ := h
    exact congrArg (some t.symbol :: ·) hu

theorem show_singleton :
    Show es [x] ↔ ∃ t : Token, es = [.token t] ∧ t.kind = x.kind ∧ t.lexeme = x.lexeme := by
  constructor
  · intro h
    obtain ⟨t, us, rfl, rfl, hu⟩ := show_cons.1 h
    obtain rfl := show_nil.1 hu
    exact ⟨t, rfl, rfl, rfl⟩
  · rintro ⟨t, rfl, hk, hl⟩
    rw [Show, List.map_singleton, symbol?_token, Token.symbol, hk, hl]
    rfl

theorem show_iff :
    Show es xs ↔ (∀ e ∈ es, e.symbol?.isSome) ∧ es.filterMap symbol? = xs := by
  simp only [Show] at *
  induction es generalizing xs with
  | nil => cases xs <;> simp
  | cons e es ih =>
    cases e with
    | illegal c p => cases xs <;> simp
    | token t => cases xs <;> simp [ih, and_left_comm]

theorem symbol?_scan_isSome_iff :
    (∀ e ∈ scan pos w cs, e.symbol?.isSome) ↔ ∀ c ∈ cs, Token.isLegal c := by
  have hw : ∀ (pos : Nat) (w : List Char), ∀ e ∈ (word? pos w).toList, e.symbol?.isSome := by
    intro pos w e he
    cases w with
    | nil => cases he
    | cons c w =>
      obtain rfl := List.mem_singleton.1 he
      rfl
  induction cs generalizing pos w with
  | nil => simpa [scan] using hw pos w
  | cons c cs ih =>
    rw [scan]
    split
    · next h => simp [ih, Token.isLegal, h]
    · next h =>
      have hc : (∀ e ∈ (ofChar? pos c).toList, e.symbol?.isSome) ↔ Token.isLegal c := by
        simp only [ofChar?, Token.isLegal, h]
        by_cases hb : c.isWhitespace
        · simp [hb]
        · cases hk : Token.Kind.ofChar? c <;> simp [hb, symbol?]
      have hv : ∀ e ∈ (word? pos w).toList, e.symbol?.isSome := hw pos w
      rw [List.forall_mem_append, List.forall_mem_append, List.forall_mem_cons, and_iff_right hv]
      exact and_congr hc ih

theorem fits_of_mem_scan (hw : ∀ c ∈ w, c.isAlpha) (he : e ∈ scan pos w cs)
    (hx : e.symbol? = some x) : x.Fits := by
  have hword : ∀ (pos : Nat) (w : List Char), (∀ c ∈ w, c.isAlpha) →
      e ∈ (word? pos w).toList → x.Fits := by
    intro pos w hw he
    cases w with
    | nil => cases he
    | cons c w =>
      obtain rfl := List.mem_singleton.1 he
      obtain rfl := Option.some.inj hx
      have hr : ∀ d ∈ (c :: w).reverse, d.isAlpha := fun d hd => hw d (List.mem_reverse.1 hd)
      simpa [Symbol.Fits, Token.symbol, Token.Kind.char?] using hr
  induction cs generalizing pos w with
  | nil => exact hword pos w hw he
  | cons c cs ih =>
    rw [scan] at he
    split at he
    · next h => exact ih (List.forall_mem_cons.2 ⟨h, hw⟩) he
    · next h =>
      rcases List.mem_append.1 he with he | he
      · rcases List.mem_append.1 he with he | he
        · exact hword pos w hw he
        · obtain ⟨-, ⟨-, rfl⟩ | ⟨k, hk, rfl⟩⟩ := ofChar?_cases (Option.mem_toList.1 he)
          · cases hx
          · obtain rfl := Option.some.inj hx
            simp [Symbol.Fits, Token.symbol, Token.Kind.ofChar?_eq_some.1 hk]
      · exact ih (by simp) he

end Entry

namespace Pattern

mutual
def symbols : Pattern → List Symbol
  | literal w => [⟨.word, w⟩]
  | wildcard => [⟨.period, "."⟩]
  | optional p => p.symbols ++ [⟨.question, "?"⟩]
  | group g ps =>
    ⟨.opening g, g.opening.toString⟩ :: (symbolsOf ps ++ [⟨.closing g, g.closing.toString⟩])
def symbolsOf : List Pattern → List Symbol
  | [] => []
  | p :: ps => p.symbols ++ symbolsOf ps
end

@[simp] theorem symbolsOf_eq (ps : List Pattern) : symbolsOf ps = ps.flatMap symbols := by
  induction ps with
  | nil => rfl
  | cons p ps ih => simp [symbolsOf, ih]

mutual
def isWellFormed : Pattern → Bool
  | literal w => w != "" && w.toList.all Char.isAlpha
  | wildcard => true
  | optional p => p.isWellFormed
  | group _ ps => !ps.isEmpty && areWellFormed ps
def areWellFormed : List Pattern → Bool
  | [] => true
  | p :: ps => p.isWellFormed && areWellFormed ps
end

@[simp] theorem areWellFormed_eq (ps : List Pattern) :
    areWellFormed ps = ps.all isWellFormed := by
  induction ps with
  | nil => rfl
  | cons p ps ih => simp [areWellFormed, ih]

end Pattern
end Initialism
