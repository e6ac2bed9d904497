import Initialism.Text.Table.Case

/-! Full case mappings: one character may map to several, and a capital sigma that ends a word
has a lower case of its own. -/
namespace Initialism.Text

def mapped (long : List (Nat × List Nat)) (rows : List CaseRow) (c : Char) : List Char :=
  match long.lookup c.toNat with
  | some ns => ns.map Char.ofNat
  | none => [((rows.findSome? (·.image? c.toNat)).map Char.ofNat).getD c]

def lower (c : Char) : List Char :=
  if c.toNat < 0x80 then [c.toLower] else mapped lowerLong lowerRows c

def upper (c : Char) : List Char :=
  if c.toNat < 0x80 then [c.toUpper] else mapped upperLong upperRows c

/-- Two letters count as the same if they differ in case at most. -/
def sameLetter (a b : Char) : Bool := a == b || lower a == lower b

def isCased (c : Char) : Bool := inRanges casedRanges c.toNat
def isCaseIgnorable (c : Char) : Bool := inRanges caseIgnorableRanges c.toNat

def meetsCased (cs : List Char) : Bool :=
  match cs.dropWhile isCaseIgnorable with
  | [] => false
  | c :: _ => isCased c

/-- Lower case of a text; `before` holds what stands in front of it, nearest first. -/
def lowerAfter (before : List Char) : List Char → List Char
  | [] => []
  | c :: r =>
    if c = 'Σ' then
      (if meetsCased before && !meetsCased r then 'ς' else 'σ') :: lowerAfter (c :: before) r
    else lower c ++ lowerAfter (c :: before) r

def lowerText (s : String) : String := String.ofList (lowerAfter [] s.toList)
def upperText (s : String) : String := String.ofList (s.toList.flatMap upper)

theorem sameLetter_refl (a : Char) : sameLetter a a = true := by simp [sameLetter]

theorem sameLetter_comm (a b : Char) : sameLetter a b = sameLetter b a := by
  simp only [sameLetter, Bool.beq_comm (a := a), Bool.beq_comm (a := lower a)]

/- Equal letters have equal lower cases, so the first test never decides. -/
theorem sameLetter_iff (a b : Char) : sameLetter a b = true ↔ lower a = lower b := by
  simp only [sameLetter, Bool.or_eq_true, beq_iff_eq, or_iff_right_iff_imp]
  rintro rfl
  rfl

end Initialism.Text
