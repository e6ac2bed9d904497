import Initialism.Settings.Basic

/-! What layers make of the settings. Each key reaches one section and goes by what stands there
alone, and overrides leave the files as they are. A section that is a table is read by the names in
it; one that is a list is lost as soon as a name is put into it. -/
namespace Initialism
open List

namespace Settings
open Text (lowerText)
variable {t v w : Value} {ls ms : List Layer} {r s n : String}

def Key.inSection (s n : String) : Key := ⟨s, [.name n]⟩

theorem get?_putKey_inSection (t v : Value) (s n : String) :
    (t.putKey (.inSection s n) v).get? (lowerText s) =
      some (((t.get? (lowerText s)).getD .null).put n v) :=
  Value.get?_set_self _ _ _

theorem get?_putKey_of_ne (h : r ≠ lowerText s) (t v : Value) (n : String) :
    (t.putKey (.inSection s n) v).get? r = t.get? r :=
  Value.get?_set_of_ne h _ _

/-- A key reaches one field of a value and goes by what was there alone. -/
theorem exists_putKey_eq_set (k : Key) (w : Value) : ∃ f : Option Value → Value,
    ∀ t : Value, t.putKey k w = t.set (lowerText k.root) (f (t.get? (lowerText k.root))) := by
  obtain ⟨r, steps⟩ := k
  cases steps with
  | nil =>
    cases w with
    | table fs => exact ⟨fun o => Value.putAll (o.getD .empty) fs, fun t => rfl⟩
    | _ => exact ⟨fun _ => _, fun t => rfl⟩
  | cons k ks => exact ⟨fun o => Value.putAlong w (k :: ks) (o.getD .null), fun t => rfl⟩

theorem get?_putKey_congr {u : Value} (h : t.get? r = u.get? r) (k : Key) (w : Value) :
    (t.putKey k w).get? r = (u.putKey k w).get? r := by
  obtain ⟨f, hf⟩ := exists_putKey_eq_set k w
  rw [hf, hf]
  by_cases hr : r = lowerText k.root
  · rw [hr] at h ⊢
    rw [Value.get?_set_self, Value.get?_set_self, h]
  · rw [Value.get?_set_of_ne hr, Value.get?_set_of_ne hr, h]

theorem get?_putOverrides_congr {u : Value} (h : t.get? r = u.get? r) (os : List (Key × Value)) :
    (putOverrides t os).get? r = (putOverrides u os).get? r := by
  induction os generalizing t u with
  | nil => exact h
  | cons o os ih => exact ih (get?_putKey_congr h o.1 o.2)

theorem putFiles_append (h : ∀ l ∈ ms, l.text? = .ok none) (ls : List Layer) (t : Value) :
    putFiles t (ls ++ ms) = putFiles t ls := by
  induction ls generalizing t with
  | nil =>
    induction ms with
    | nil => rfl
    | cons l ms ih =>
      obtain ⟨hl, hms⟩ := forall_mem_cons.1 h
      simpa only [nil_append, putFiles, hl] using ih hms
  | cons l ls ih => simp only [cons_append, putFiles, ih]

theorem eq_ok_of_toOption {ε α : Type} {x : Except ε α} {a : α} (h : x.toOption = some a) :
    x = .ok a := by
  cases x with
  | error e => cases h
  | ok b => exact congrArg _ (Option.some.inj h)

theorem load_eq_ok_iff {s : Settings} :
    load ls = .ok s ↔ ∃ v, merged ls = .ok v ∧ ofValue v = .ok s := by
  rw [load]
  cases merged ls with
  | error e => simp [bind, Except.bind]
  | ok v => simp [bind, Except.bind]

theorem typed_eq_ok_some {α : Type} {read : Value → Option α} {v? : Option Value} {a : α} :
    typed read v? = .ok (some a) ↔ ∃ v, v? = some v ∧ read v = some a := by
  cases v? with
  | none => simp [typed]
  | some v => cases h : read v <;> simp [typed, h]

theorem section?_generate (fs : List (String × Value)) : section? ["min_length", "use_variants"]
    (.table fs) = some [fs.lookup "min_length", fs.lookup "use_variants"] := rfl

theorem generateOf_table_eq_ok_iff {fs : List (String × Value)} {m : Nat} {u : Bool} :
    generateOf (.table fs) = .ok (m, u) ↔
      (∃ v, fs.lookup "min_length" = some v ∧ v.toNat? = some m) ∧
        ∃ v, fs.lookup "use_variants" = some v ∧ v.toBool? = some u := by
  rw [← typed_eq_ok_some, ← typed_eq_ok_some, generateOf, section?_generate]
  dsimp only
  cases typed Value.toNat? (fs.lookup "min_length") with
  | error e => simp [bind, Except.bind]
  | ok m? =>
    cases typed Value.toBool? (fs.lookup "use_variants") with
    | error e => simp [bind, Except.bind]
    | ok u? =>
      cases m? <;> cases u? <;> simp [bind, Except.bind, pure, Except.pure, required]

theorem generateOf_table_eq_wrongType {fs : List (String × Value)}
    (hm : fs.lookup "min_length" = some w) (hw : w.toNat? = none) :
    generateOf (.table fs) = .error .wrongType := by
  rw [generateOf, section?_generate, hm]
  simp [typed, hw, bind, Except.bind]

theorem generateOf_minLength_alone {n : Nat} (hw : w.toNat? = some n) :
    generateOf (.table [("min_length", w)]) = .error .malformed := by
  have hm : [("min_length", w)].lookup "min_length" = some w := rfl
  have hu : [("min_length", w)].lookup "use_variants" = none := rfl
  rw [generateOf, section?_generate, hm, hu]
  simp [typed, hw, bind, Except.bind, required]

theorem generateOf_of_lookup {fs gs : List (String × Value)} {m : Nat} {u : Bool}
    (h : generateOf (.table fs) = .ok (m, u)) (hm : gs.lookup "min_length" = some w)
    (hu : gs.lookup "use_variants" = fs.lookup "use_variants") :
    generateOf (.table gs) =
      match w.toNat? with
      | some n => .ok (n, u)
      | none => .error .wrongType := by
  cases hw : w.toNat? with
  | none => exact generateOf_table_eq_wrongType hm hw
  | some n =>
    have hb := (generateOf_table_eq_ok_iff.1 h).2
    rw [← hu] at hb
    exact generateOf_table_eq_ok_iff.2 ⟨⟨w, hm, hw⟩, hb⟩

def Value.isList : Value → Bool
  | .list _ => true
  | _ => false

def switched (u : Bool) (g : Value) : Value :=
  if u then g.set "use_variants" (.boolean true) else g

/-- A least length that is put into a section takes the place of the old one. Where the section was
a list, nothing of it is left. -/
theorem generateOf_switched_set {g : Value} {u b : Bool} {m : Nat}
    (h : generateOf (switched u g) = .ok (m, b)) (w : Value) :
    generateOf (switched u (g.set "min_length" w)) =
      match w.toNat? with
      | some n => if (switched u g).isList then .error .malformed else .ok (n, b)
      | none => .error .wrongType := by
  cases u with
  | true =>
    refine generateOf_of_lookup h ?_ ?_
    · rw [Value.lookup_setField_of_ne (by decide)]
      exact Value.lookup_setField_self _ _ _
    · rw [Value.lookup_setField_self, Value.lookup_setField_self]
  | false =>
    cases g with
    | table fs =>
      exact generateOf_of_lookup h (Value.lookup_setField_self _ _ _)
        (Value.lookup_setField_of_ne (by decide) _ _)
    | list vs =>
      cases hw : w.toNat? with
      | none => exact generateOf_table_eq_wrongType (Value.lookup_setField_self _ _ _) hw
      | some n => exact generateOf_minLength_alone hw
    | _ => cases h

theorem ofValue_eq_ok_iff {s : Settings} : ofValue v = .ok s ↔
    generateOf ((v.get? "generate").getD .null) = .ok (s.minLength, s.useVariants) ∧
      dictionaryOf ((v.get? "dictionary").getD .null) = .ok s.path := by
  rw [ofValue]
  cases generateOf ((v.get? "generate").getD .null) with
  | error e => simp [bind, Except.bind]
  | ok mu =>
    cases dictionaryOf ((v.get? "dictionary").getD .null) with
    | error e => simp [bind, Except.bind]
    | ok p =>
      obtain ⟨m, u⟩ := mu
      cases s
      simp [bind, Except.bind, pure, Except.pure, and_assoc]

def listsGenerate (ls : List Layer) : Bool :=
  match merged ls with
  | .ok v => ((v.get? "generate").getD .null).isList
  | .error _ => false

end Settings
end Initialism
