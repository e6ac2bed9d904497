import Initialism.Text.Json
import Initialism.Toml.Quoted

/-! Reading JSON. The reader knows all of the format, so what it makes of a text is what any program
makes of it. An acronym is read back from its own line. -/
namespace Initialism

/-- A value in JSON. Numbers are kept as they are written. -/
inductive Json where
  | null
  | boolean (b : Bool)
  | number (text : String)
  | string (s : String)
  | array (vs : List Json)
  | object (fields : List (String × Json))

namespace Json
open Toml (Reader push hexValue?)

def skip (cs : List Char) : List Char := cs.dropWhile Char.isWhitespace

def unit : Reader Nat
  | a :: b :: c :: d :: r =>
    ([a, b, c, d].mapM hexValue?).map fun ns => (ns.foldl (fun n d => 16 * n + d) 0, r)
  | _ => none

def isHigh (n : Nat) : Bool := 0xD800 ≤ n && n < 0xDC00
def isLow (n : Nat) : Bool := 0xDC00 ≤ n && n < 0xE000

def paired (high low : Nat) : Char := Char.ofNat (0x10000 + 0x400 * (high - 0xD800) + (low - 0xDC00))

def low (high : Nat) : Reader Char
  | '\\' :: 'u' :: r =>
    match unit r with
    | none => none
    | some (n, r) => if isLow n then some (paired high n, r) else none
  | _ => none

def escape? : Char → Option Char
  | '"' => some '"'
  | '\\' => some '\\'
  | '/' => some '/'
  | 'b' => some (Char.ofNat 8)
  | 'f' => some (Char.ofNat 12)
  | 'n' => some '\n'
  | 'r' => some '\r'
  | 't' => some '\t'
  | _ => none

def letter : Reader Char
  | [] => none
  | '\\' :: 'u' :: r =>
    match unit r with
    | none => none
    | some (n, r) => if isHigh n then low n r else if isLow n then none else some (Char.ofNat n, r)
  | '\\' :: e :: r => (escape? e).map (·, r)
  | c :: r => if c = '"' || c = '\\' || c.toNat < 32 then none else some (c, r)

def lettersUpTo : Nat → Reader (List Char)
  | _, '"' :: r => some ([], r)
  | 0, _ => none
  | n+1, cs =>
    match letter cs with
    | none => none
    | some (c, r) => push (some c) (lettersUpTo n r)

/- A letter takes at least one character, so the length of the text is enough. -/
def string? : Reader String
  | '"' :: r => (lettersUpTo r.length r).map fun (cs, r) => (String.ofList cs, r)
  | _ => none

def digits : Reader (List Char) := fun cs =>
  match cs.span Char.isDigit with
  | ([], _) => none
  | (ds, r) => some (ds, r)

def integral : Reader (List Char)
  | '0' :: r => some (['0'], r)
  | cs => digits cs

def decimals : Reader (List Char)
  | '.' :: r => push (some '.') (digits r)
  | cs => some ([], cs)

def exponent : Reader (List Char)
  | e :: r =>
    if e = 'e' || e = 'E' then
      push (some e) <| match r with
        | '+' :: r => push (some '+') (digits r)
        | '-' :: r => push (some '-') (digits r)
        | r => digits r
    else some ([], e :: r)
  | [] => some ([], [])

def unsigned : Reader (List Char) := fun cs =>
  match integral cs with
  | none => none
  | some (is, r) =>
    match decimals r with
    | none => none
    | some (fs, r) => (exponent r).map fun (es, r) => (is ++ fs ++ es, r)

def number? : Reader (List Char)
  | '-' :: r => push (some '-') (unsigned r)
  | cs => unsigned cs

section
variable {α : Type}

def itemsUpTo (item : Reader α) (close : Char) : Nat → Reader (List α)
  | 0, _ => none
  | n+1, cs =>
    match item (skip cs) with
    | none => none
    | some (a, r) =>
      match skip r with
      | [] => none
      | c :: r =>
        if c = ',' then (itemsUpTo item close n r).map fun (as, r) => (a :: as, r)
        else if c = close then some ([a], r)
        else none

def items (item : Reader α) (close : Char) : Reader (List α) := fun cs =>
  match skip cs with
  | [] => none
  | c :: r => if c = close then some ([], r) else itemsUpTo item close cs.length cs

end

def field (value : Reader Json) : Reader (String × Json) := fun cs =>
  match string? cs with
  | none => none
  | some (k, r) =>
    match skip r with
    | ':' :: r => (value (skip r)).map fun (v, r) => ((k, v), r)
    | _ => none

def value : Nat → Reader Json
  | depth, cs =>
    match cs with
    | 'n' :: 'u' :: 'l' :: 'l' :: r => some (.null, r)
    | 't' :: 'r' :: 'u' :: 'e' :: r => some (.boolean true, r)
    | 'f' :: 'a' :: 'l' :: 's' :: 'e' :: r => some (.boolean false, r)
    | '"' :: r => (string? ('"' :: r)).map fun (s, r) => (.string s, r)
    | '[' :: r =>
      match depth with
      | 0 => none
      | d+1 => (items (value d) ']' r).map fun (vs, r) => (.array vs, r)
    | '\x7b' :: r =>
      match depth with
      | 0 => none
      | d+1 => (items (field (value d)) '\x7d' r).map fun (fs, r) => (.object fs, r)
    | cs => (number? cs).map fun (ds, r) => (.number (String.ofList ds), r)

/- No text has more brackets than characters. -/
def decode? (s : String) : Option Json :=
  match value s.length (skip s.toList) with
  | none => none
  | some (v, r) => if skip r = [] then some v else none

example : decode? " [true, \x7b\"k\" : [ ]\x7d,-0.5e+3, \"\\ud834\\udd1e\\u00e9\\/\" ]\n" =
    some (.array [.boolean true, .object [("k", .array [])], .number "-0.5e+3", .string "𝄞é/"]) := by
  rfl

theorem skip_cons {c : Char} (h : ¬ c.isWhitespace) (r : List Char) : skip (c :: r) = c :: r :=
  List.dropWhile_cons_of_neg h

theorem unit_append {ds r : List Char} {n : Nat} (h : unit ds = some (n, r)) (r' : List Char) :
    unit (ds ++ r') = some (n, r ++ r') := by
  match ds with
  | a :: b :: c :: d :: t =>
    obtain ⟨ns, hns, hn⟩ := Option.map_eq_some_iff.1 h
    cases hn
    simp [unit, hns]
  | [] | [_] | [_, _] | [_, _, _] => cases h

/-- The digits of every control character are those of its code point, and it is no surrogate. -/
theorem unit_fourDigits : ∀ n < 32, unit ((Text.fourDigits (Char.ofNat n)).drop 2) = some (n, []) ∧
    isHigh n = false ∧ isLow n = false := by decide

theorem letter_fourDigits {c : Char} (h : c.toNat < 32) (r : List Char) :
    letter (Text.fourDigits c ++ r) = some (c, r) := by
  obtain ⟨hu, hh, hl⟩ := unit_fourDigits c.toNat h
  rw [Char.ofNat_toNat] at hu
  have hr : unit (List.replicate (4 - (Nat.toDigits 16 c.toNat).length) '0' ++
      (Nat.toDigits 16 c.toNat ++ r)) = some (c.toNat, r) := by
    rw [← List.append_assoc]
    exact unit_append hu r
  simp [Text.fourDigits, letter, hr, hh, hl]

theorem letter_jsonChar (c : Char) (r : List Char) : letter (Text.jsonChar c ++ r) = some (c, r) := by
  have hc {n : Nat} (h : c.toNat = n) : c = Char.ofNat n := by rw [← h, Char.ofNat_toNat]
  rw [Text.jsonChar]
  split
  · next h => subst h; rfl
  · next hq =>
    split
    · next h => subst h; rfl
    · next hb =>
      split
      · next h => rw [hc h]; rfl
      split
      · next h => rw [hc h]; rfl
      split
      · next h => subst h; rfl
      split
      · next h => subst h; rfl
      split
      · next h => subst h; rfl
      split
      · next h => exact letter_fourDigits h r
      · next h => simp [letter, hq, hb, h]

theorem exists_jsonChar_eq_cons (c : Char) : ∃ d r, Text.jsonChar c = d :: r ∧ d ≠ '"' := by
  have hl := letter_jsonChar c []
  cases hc : Text.jsonChar c with
  | nil =>
    rw [hc] at hl
    cases hl
  | cons d r =>
    refine ⟨d, r, rfl, ?_⟩
    rintro rfl
    rw [hc] at hl
    cases hl

variable {cs r : List Char} {n : Nat}

theorem lettersUpTo_flatMap (h : cs.length ≤ n) (r : List Char) :
    lettersUpTo n (cs.flatMap Text.jsonChar ++ '"' :: r) = some (cs, r) := by
  induction cs generalizing n with
  | nil => cases n <;> rfl
  | cons c cs ih =>
    cases n with
    | zero => cases h
    | succ n =>
      obtain ⟨d, t, hd, hq⟩ := exists_jsonChar_eq_cons c
      have hl := letter_jsonChar c (cs.flatMap Text.jsonChar ++ '"' :: r)
      have hn := ih (Nat.le_of_succ_le_succ h)
      -- Nothing is written with a quote at its front, so the string does not end before `c`.
      rw [List.flatMap_cons, List.append_assoc]
      rw [hd, List.cons_append] at hl ⊢
      rw [lettersUpTo]
      · rw [hl]
        simp only [hn, push]
      · exact fun _ he => hq (List.cons.inj he).1

theorem length_le_length_flatMap (cs : List Char) : cs.length ≤ (cs.flatMap Text.jsonChar).length := by
  induction cs with
  | nil => exact Nat.le_refl 0
  | cons c cs ih =>
    obtain ⟨d, t, hd, -⟩ := exists_jsonChar_eq_cons c
    rw [List.flatMap_cons, hd, List.length_append, List.length_cons, List.length_cons]
    omega

theorem toList_jsonString_append (s : String) (r : List Char) :
    (Text.jsonString s).toList ++ r = '"' :: (s.toList.flatMap Text.jsonChar ++ '"' :: r) := by
  simp [Text.jsonString]

theorem string?_jsonString (s : String) (r : List Char) :
    string? ((Text.jsonString s).toList ++ r) = some (s, r) := by
  have hn : s.toList.length ≤ (s.toList.flatMap Text.jsonChar ++ '"' :: r).length := by
    have hs := length_le_length_flatMap s.toList
    rw [List.length_append]
    omega
  rw [toList_jsonString_append, string?, lettersUpTo_flatMap hn]
  simp

theorem value_jsonString (n : Nat) (s : String) (r : List Char) :
    value n ((Text.jsonString s).toList ++ r) = some (.string s, r) := by
  have hs := string?_jsonString s r
  rw [toList_jsonString_append] at hs ⊢
  rw [value, hs]
  rfl

theorem skip_jsonString (s : String) (r : List Char) :
    skip ((Text.jsonString s).toList ++ r) = (Text.jsonString s).toList ++ r := by
  rw [toList_jsonString_append]
  exact skip_cons (by decide) _

section
variable {α β : Type} {item : Reader α} {close : Char} {a : α}

theorem itemsUpTo_comma (h : item (skip cs) = some (a, ',' :: r)) :
    itemsUpTo item close (n+1) cs =
      (itemsUpTo item close n r).map fun (as, r) => (a :: as, r) := by
  rw [itemsUpTo, h]
  rfl

theorem itemsUpTo_close (hc : close ≠ ',') (hb : ¬ close.isWhitespace)
    (h : item (skip cs) = some (a, close :: r)) :
    itemsUpTo item close (n+1) cs = some ([a], r) := by
  simp only [itemsUpTo, h, skip_cons hb, if_neg hc, if_true]

theorem length_le_length_intercalate (f : β → List Char) (bs : List β) :
    bs.length ≤ ([','].intercalate (bs.map f)).length + 1 := by
  induction bs with
  | nil => exact Nat.zero_le _
  | cons b bs ih =>
    cases bs with
    | nil => simp
    | cons b' bs =>
      rw [List.map_cons, List.map_cons, List.intercalate_cons_cons, List.length_append,
        List.length_append]
      simp only [List.map_cons, List.length_cons] at ih ⊢
      omega

theorem itemsUpTo_intercalate {f : β → List Char} {g : β → α} {bs : List β} (hc : close ≠ ',')
    (hb : ¬ close.isWhitespace) (h : ∀ b ∈ bs, ∀ r, item (skip (f b ++ r)) = some (g b, r))
    (hn : bs ≠ []) (hl : bs.length ≤ n) (r : List Char) :
    itemsUpTo item close n ([','].intercalate (bs.map f) ++ close :: r) = some (bs.map g, r) := by
  induction bs generalizing n with
  | nil => exact absurd rfl hn
  | cons b bs ih =>
    obtain ⟨hb', hbs⟩ := List.forall_mem_cons.1 h
    obtain ⟨n, rfl⟩ : ∃ k, n = k + 1 := Nat.exists_eq_add_one.2 (Nat.lt_of_lt_of_le (by simp) hl)
    cases bs with
    | nil => simpa using itemsUpTo_close hc hb (hb' (close :: r))
    | cons b' bs =>
      have hr := ih hbs (by simp) (Nat.le_of_succ_le_succ hl)
      have hi := hb' (',' :: ([','].intercalate ((b' :: bs).map f) ++ close :: r))
      have ht : [','].intercalate ((b :: b' :: bs).map f) ++ close :: r =
          f b ++ ',' :: ([','].intercalate ((b' :: bs).map f) ++ close :: r) := by
        simp [List.intercalate_cons_cons]
      rw [ht, itemsUpTo_comma hi, hr]
      rfl

theorem items_intercalate {f : β → List Char} {g : β → α} {bs : List β} (hc : close ≠ ',')
    (hb : ¬ close.isWhitespace) (h : ∀ b ∈ bs, ∀ r, item (skip (f b ++ r)) = some (g b, r))
    (hf : ∀ b r, ∃ c t, skip (f b ++ r) = c :: t ∧ c ≠ close) (r : List Char) :
    items item close ([','].intercalate (bs.map f) ++ close :: r) = some (bs.map g, r) := by
  cases bs with
  | nil => simp [items, skip_cons hb]
  | cons b bs =>
    obtain ⟨t, ht⟩ : ∃ t, [','].intercalate ((b :: bs).map f) ++ close :: r = f b ++ t := by
      cases bs with
      | nil => exact ⟨close :: r, by simp⟩
      | cons b' bs =>
        refine ⟨',' :: ([','].intercalate ((b' :: bs).map f) ++ close :: r), ?_⟩
        simp [List.intercalate_cons_cons]
    obtain ⟨c, u, hu, hcu⟩ := hf b t
    -- Items are looked for as often as the text has characters, and there are no more items.
    have hl : (b :: bs).length ≤ (f b ++ t).length := by
      have hi := length_le_length_intercalate f (b :: bs)
      rw [← ht, List.length_append]
      exact Nat.le_trans hi (Nat.add_le_add_left (by simp) _)
    have hr := itemsUpTo_intercalate hc hb h (by simp) hl r
    rw [items, ht, hu]
    simp only [if_neg hcu]
    rw [← ht] at hr ⊢
    exact hr

end

theorem exists_skip_jsonString {close : Char} (hc : close ≠ '"') (s : String) (r : List Char) :
    ∃ c t, skip ((Text.jsonString s).toList ++ r) = c :: t ∧ c ≠ close := by
  rw [skip_jsonString, toList_jsonString_append]
  exact ⟨_, _, rfl, hc.symm⟩

theorem value_array (n : Nat) (ss : List String) (r : List Char) :
    value (n+1) ('[' :: ([','].intercalate (ss.map fun s => (Text.jsonString s).toList) ++ ']' :: r)) =
      some (.array (ss.map .string), r) := by
  have hv (s : String) (_ : s ∈ ss) (r : List Char) :
      value n (skip ((Text.jsonString s).toList ++ r)) = some (.string s, r) := by
    rw [skip_jsonString, value_jsonString]
  have hc : ']' ≠ '"' := by decide
  have hi := items_intercalate (by decide) (by decide) hv (exists_skip_jsonString hc) r
  rw [value, hi]
  rfl

def fieldText (name : String) (value : List Char) : List Char :=
  (Text.jsonString name).toList ++ ':' :: value

theorem value_object (n : Nat) (fs : List (String × List Char × Json))
    (h : ∀ f ∈ fs, ∀ r, value n (skip (f.2.1 ++ r)) = some (f.2.2, r)) (r : List Char) :
    value (n+1) ('\x7b' :: ([','].intercalate (fs.map fun f => fieldText f.1 f.2.1) ++ '\x7d' :: r)) =
      some (.object (fs.map fun f => (f.1, f.2.2)), r) := by
  have hf (f : String × List Char × Json) (hf : f ∈ fs) (r : List Char) :
      field (value n) (skip (fieldText f.1 f.2.1 ++ r)) = some ((f.1, f.2.2), r) := by
    rw [fieldText, List.append_assoc, List.cons_append, skip_jsonString, field, string?_jsonString]
    simp [skip_cons, h f hf r]
  have hc : '\x7d' ≠ '"' := by decide
  have hs (f : String × List Char × Json) (r : List Char) :
      ∃ c t, skip (fieldText f.1 f.2.1 ++ r) = c :: t ∧ c ≠ '\x7d' := by
    rw [fieldText, List.append_assoc]
    exact exists_skip_jsonString hc f.1 _
  have hi := items_intercalate (by decide) (by decide) hf hs r
  rw [value, hi]
  rfl

end Json

namespace Acronym
open Json

def itemsText (a : Acronym) : List Char :=
  '[' :: ([','].intercalate (a.items.map fun s => (Text.jsonString s).toList) ++ [']'])

def fields (a : Acronym) : List (String × List Char × Json) :=
  [("name", (Text.jsonString a.name).toList, .string a.name),
    ("items", a.itemsText, .array (a.items.map .string))]

def toJson (a : Acronym) : Json := .object (a.fields.map fun f => (f.1, f.2.2))

theorem toList_json (a : Acronym) : a.json.toList =
    '\x7b' :: ([','].intercalate (a.fields.map fun f => fieldText f.1 f.2.1) ++ ['\x7d']) := by
  have hn : "\x7b\"name\":".toList = '\x7b' :: ((Text.jsonString "name").toList ++ [':']) := by decide
  have hi : ",\"items\":[".toList = ',' :: ((Text.jsonString "items").toList ++ [':', '[']) := by
    decide
  simp [json, fields, fieldText, itemsText, hn, hi, Function.comp_def]

theorem value_json (n : Nat) (a : Acronym) : value (n+2) a.json.toList = some (a.toJson, []) := by
  have hname (r : List Char) : value (n+1) (skip ((Text.jsonString a.name).toList ++ r)) =
      some (.string a.name, r) := by
    rw [skip_jsonString, value_jsonString]
  have hitems (r : List Char) : value (n+1) (skip (a.itemsText ++ r)) =
      some (.array (a.items.map .string), r) := by
    rw [itemsText, List.cons_append, skip_cons (by decide), List.append_assoc]
    exact value_array n a.items r
  have hv : ∀ f ∈ a.fields, ∀ r, value (n+1) (skip (f.2.1 ++ r)) = some (f.2.2, r) := by
    simpa [fields] using ⟨hname, hitems⟩
  rw [toList_json]
  exact value_object (n+1) a.fields hv []

theorem decode?_json (a : Acronym) : decode? a.json = some a.toJson := by
  have hlen : 2 ≤ a.json.length := by
    rw [← String.length_toList, toList_json, List.length_cons, List.length_append]
    exact Nat.succ_le_succ (Nat.le_add_left 1 _)
  obtain ⟨n, hn⟩ := Nat.exists_eq_add_of_le' hlen
  have hj : skip a.json.toList = a.json.toList := by
    rw [toList_json]
    exact skip_cons (by decide) _
  rw [decode?, hj, hn, value_json]
  rfl

end Acronym
end Initialism
