import Initialism.Proofs.Settings.Layers

/-! Which layer a setting has its value from. All that layers do is to put values at keys, and a key
that keeps to the form of the settings changes one of them and no other. So a setting is what it was
last given: by an override, or else by a file, or else by the defaults. -/
namespace Initialism
open List

namespace Settings
open Text (lowerText)

inductive Setting where
  | minLength
  | useVariants
  | path
deriving DecidableEq, Repr

def Value.isTable : Value → Bool
  | .table _ => true
  | _ => false

abbrev Put := Key × Value

namespace Setting

def home : Setting → String
  | minLength | useVariants => "generate"
  | path => "dictionary"

def name : Setting → String
  | minLength => "min_length"
  | useVariants => "use_variants"
  | path => "path"

def builtIn : Setting → Value
  | minLength => .integer 4
  | useVariants => .boolean false
  | path => .text "/usr/share/dict/words"

def of? (x : Setting) (t : Value) : Option Value := (t.get? x.home).bind (·.get? x.name)

def field? (x : Setting) (f : String × Value) : Option Value :=
  if lowerText f.1 = x.name then some f.2 else none

def given? (x : Setting) : Put → Option Value
  | (⟨r, []⟩, v) => if lowerText r = x.home then (v.fields.filterMap x.field?).getLast? else none
  | (⟨r, [.name n]⟩, v) => if lowerText r = x.home then x.field? (n, v) else none
  | _ => none

/-- What is put leaves the section a table, and makes none of the setting. -/
def Allows (x : Setting) : Put → Prop
  | (⟨r, []⟩, v) => lowerText r = x.home →
      v.isTable = true ∧ ∀ f ∈ v.fields, lowerText f.1 = x.name → f.2.isTable = false
  | (⟨r, .name n :: ks⟩, v) =>
      lowerText r = x.home → lowerText n = x.name → ks = [] ∧ v.isTable = false
  | (⟨r, .position _ :: _⟩, _) => lowerText r ≠ x.home

instance (x : Setting) (p : Put) : Decidable (x.Allows p) :=
  match p with
  | (⟨_, []⟩, _) => inferInstanceAs (Decidable (_ → _))
  | (⟨_, .name _ :: _⟩, _) => inferInstanceAs (Decidable (_ → _))
  | (⟨_, .position _ :: _⟩, _) => inferInstanceAs (Decidable (_ ≠ _))

end Setting

variable {x : Setting} {t s v : Value} {k n : String} {fs : List (String × Value)} {p : Put}
  {ps : List Put} {l : Layer} {ls ms : List Layer}

namespace Value

theorem put_of_not_isTable (h : v.isTable = false) (t : Value) (k : String) :
    t.put k v = t.set (lowerText k) v := by
  cases v with
  | table fs => cases h
  | _ => rfl

theorem get?_put_of_ne (h : n ≠ lowerText k) (t v : Value) : (t.put k v).get? n = t.get? n := by
  cases v <;> exact get?_set_of_ne h _ _

theorem isTable_put (t : Value) (k : String) (v : Value) : (t.put k v).isTable = true := by
  cases v <;> rfl

theorem isTable_putAll (h : t.isTable = true) (fs : List (String × Value)) :
    (t.putAll fs).isTable = true := by
  induction fs generalizing t with
  | nil => exact h
  | cons f fs ih => exact ih (isTable_put t f.1 f.2)

end Value

theorem getLast?_filterMap_cons {α β : Type} (f : α → Option β) (a : α) (as : List α) :
    ((a :: as).filterMap f).getLast? = (as.filterMap f).getLast?.or (f a) := by
  cases h : f a with
  | none => simp [h]
  | some b => simp [h, getLast?_cons, Option.or_some]

namespace Setting

/-- The section of the setting is a table, and the setting has this value in it, or none. -/
def Stands (x : Setting) (t : Value) (v? : Option Value) : Prop :=
  ∃ s, t.get? x.home = some s ∧ s.isTable = true ∧ s.get? x.name = v?

theorem get?_put_field {f : String × Value} (h : lowerText f.1 = x.name → f.2.isTable = false)
    (s : Value) : (s.put f.1 f.2).get? x.name = (x.field? f).or (s.get? x.name) := by
  rw [field?]
  split
  · next hn => rw [Value.put_of_not_isTable (h hn), ← hn, Value.get?_set_self, Option.some_or]
  · next hn => rw [Value.get?_put_of_ne (Ne.symm hn), Option.none_or]

theorem get?_putAll (h : ∀ f ∈ fs, lowerText f.1 = x.name → f.2.isTable = false) (s : Value) :
    (s.putAll fs).get? x.name = (fs.filterMap x.field?).getLast?.or (s.get? x.name) := by
  induction fs generalizing s with
  | nil => rfl
  | cons f fs ih =>
    obtain ⟨hf, hfs⟩ := forall_mem_cons.1 h
    rw [Value.putAll, ih hfs, get?_put_field hf, getLast?_filterMap_cons, Option.or_assoc]

theorem given?_of_ne (h : lowerText p.1.root ≠ x.home) : x.given? p = none := by
  obtain ⟨⟨r, steps⟩, v⟩ := p
  match steps with
  | [] => exact if_neg h
  | [.name n] => exact if_neg h
  | [.position i] => rfl
  | .name n :: k :: ks => rfl
  | .position i :: k :: ks => rfl

theorem putAlong_name {ks : List Key.Step} (hr : lowerText k = x.home)
    (hp : x.Allows (⟨k, .name n :: ks⟩, v)) (s : Value) :
    (Value.putAlong v (.name n :: ks) s).isTable = true ∧
      (Value.putAlong v (.name n :: ks) s).get? x.name =
        (x.given? (⟨k, .name n :: ks⟩, v)).or (s.get? x.name) := by
  cases ks with
  | nil =>
    have hg : x.given? (⟨k, [.name n]⟩, v) = x.field? (n, v) := if_pos hr
    rw [hg]
    exact ⟨Value.isTable_put s n v, get?_put_field (f := (n, v)) (fun hn => (hp hr hn).2) s⟩
  | cons k' ks =>
    have hn : x.name ≠ lowerText n := fun hn => List.cons_ne_nil _ _ (hp hr hn.symm).1
    exact ⟨rfl, Value.get?_set_of_ne hn _ _⟩

/-- What is put at a key of the section makes a table of it again, in which the setting has the value
that it is given, or the one that it had. -/
theorem exists_putKey_eq_set_home (hr : lowerText p.1.root = x.home) (hp : x.Allows p)
    (hs : t.get? (lowerText p.1.root) = some s) (ht : s.isTable = true) :
    ∃ s', t.putKey p.1 p.2 = t.set (lowerText p.1.root) s' ∧ s'.isTable = true ∧
      s'.get? x.name = (x.given? p).or (s.get? x.name) := by
  obtain ⟨⟨r, steps⟩, v⟩ := p
  dsimp only at hr hs ⊢
  match steps with
  | [] =>
    obtain ⟨hv, hf⟩ := hp hr
    cases v with
    | table fs =>
      have hg : x.given? (⟨r, []⟩, .table fs) = (fs.filterMap x.field?).getLast? := if_pos hr
      refine ⟨s.putAll fs, ?_, Value.isTable_putAll ht fs, hg ▸ get?_putAll hf s⟩
      rw [Value.putKey, Value.putAlong, Value.put, hs, Option.getD_some]
    | _ => cases hv
  | .name n :: ks =>
    refine ⟨_, ?_, putAlong_name hr hp s⟩
    rw [Value.putKey, Value.putAlong, hs, Option.getD_some]
    exact List.cons_ne_nil _ _
  -- A position would make the section a list, which is not allowed.
  | .position i :: ks => exact absurd hr hp

theorem Stands.putKey {v? : Option Value} (h : x.Stands t v?) (hp : x.Allows p) :
    x.Stands (t.putKey p.1 p.2) ((x.given? p).or v?) := by
  obtain ⟨s, hs, ht, rfl⟩ := h
  -- A key of another section gives the setting nothing and does not touch its section.
  by_cases hr : lowerText p.1.root = x.home
  · obtain ⟨s', hk, ht', hv⟩ := exists_putKey_eq_set_home hr hp (hr ▸ hs) ht
    exact ⟨s', by rw [hk, ← hr, Value.get?_set_self], ht', hv⟩
  · obtain ⟨f, hf⟩ := exists_putKey_eq_set p.1 p.2
    rw [given?_of_ne hr, Option.none_or]
    exact ⟨s, by rw [hf, Value.get?_set_of_ne (Ne.symm hr), hs], ht, rfl⟩

theorem Stands.putOverrides {v? : Option Value} (h : x.Stands t v?) (hps : ∀ p ∈ ps, x.Allows p) :
    x.Stands (putOverrides t ps) ((ps.filterMap x.given?).getLast?.or v?) := by
  induction ps generalizing t v? with
  | nil => exact h
  | cons p ps ih =>
    obtain ⟨hp, hps⟩ := forall_mem_cons.1 hps
    rw [getLast?_filterMap_cons, Option.or_assoc]
    exact ih (h.putKey hp) hps

theorem stands_defaults (x : Setting) : x.Stands defaults (some x.builtIn) := by
  cases x <;> exact ⟨_, rfl, rfl, rfl⟩

end Setting

def Put.Plain (p : Put) : Prop := ∀ x ∈ [Setting.minLength, .useVariants, .path], x.Allows p

instance (p : Put) : Decidable p.Plain := inferInstanceAs (Decidable (∀ x ∈ _, _))

theorem Put.Plain.allows (h : p.Plain) (x : Setting) : x.Allows p :=
  h x (by cases x <;> decide)

def filePuts (file : Value) : List Put := file.fields.map fun f => (.ofName f.1, f.2)

theorem putFile_eq (t file : Value) : putFile t file = putOverrides t (filePuts file) := by
  rw [putOverrides, filePuts, foldl_map]
  rfl

namespace Layer

def isOverride : Layer → Bool
  | override _ _ => true
  | _ => false

/-- What the file of the layer puts, if it can be read. One that need not be there puts nothing. -/
def fromFile? (l : Layer) : Option (List Put) :=
  match l.text? with
  | .error _ => none
  | .ok none => some []
  | .ok (some s) => (readFile s).toOption.map filePuts

def puts? : Layer → Option (List Put)
  | override k v => (Key.parse k).map fun k => [(k, v)]
  | l => l.fromFile?

def Plain (l : Layer) : Prop := ∃ ps ∈ l.puts?, ∀ p ∈ ps, p.Plain

instance (l : Layer) : Decidable l.Plain := inferInstanceAs (Decidable (∃ ps ∈ l.puts?, _))

def puts (l : Layer) : List Put := l.puts?.getD []

theorem Plain.of_mem_puts (h : l.Plain) (hp : p ∈ l.puts) : p.Plain := by
  obtain ⟨ps, hps, h⟩ := h
  rw [puts, hps, Option.getD_some] at hp
  exact h p hp

end Layer

def Setting.ofLayer? (x : Setting) (l : Layer) : Option Value := (l.puts.filterMap x.given?).getLast?

def Setting.last? (x : Setting) (ls : List Layer) : Option Value := (ls.filterMap x.ofLayer?).getLast?

def overridesOf (ls : List Layer) : List Layer := ls.filter Layer.isOverride

def filesOf (ls : List Layer) : List Layer := ls.filter (!·.isOverride)

/-- What a setting comes to: its last override, or else its value in the last file that has one, or
else the one that is built in. -/
def effective (ls : List Layer) (x : Setting) : Value :=
  ((x.last? (overridesOf ls)).or (x.last? (filesOf ls))).getD x.builtIn

theorem Setting.last?_eq (x : Setting) (ls : List Layer) :
    x.last? ls = ((ls.flatMap Layer.puts).filterMap x.given?).getLast? := by
  rw [last?]
  induction ls with
  | nil => rfl
  | cons l ls ih =>
    rw [getLast?_filterMap_cons, ih, flatMap_cons, filterMap_append, getLast?_append, ofLayer?]

theorem overridesOf_cons (l : Layer) (ls : List Layer) :
    overridesOf (l :: ls) = if l.isOverride then l :: overridesOf ls else overridesOf ls :=
  filter_cons

theorem filesOf_cons (l : Layer) (ls : List Layer) :
    filesOf (l :: ls) = if l.isOverride then filesOf ls else l :: filesOf ls := by
  rw [filesOf, filter_cons]
  cases l.isOverride <;> rfl

theorem overrides_overridesOf (ls : List Layer) : overrides (overridesOf ls) = overrides ls := by
  induction ls with
  | nil => rfl
  | cons l ls ih =>
    rw [overridesOf_cons]
    cases l with
    | override k v => simp only [Layer.isOverride, if_true, overrides, ih]
    | _ => exact ih

theorem putFiles_filesOf (ls : List Layer) (t : Value) :
    putFiles t (filesOf ls) = putFiles t ls := by
  induction ls generalizing t with
  | nil => rfl
  | cons l ls ih =>
    rw [filesOf_cons]
    cases l with
    | override k v => exact ih t
    | _ => simp only [Layer.isOverride, Bool.false_eq_true, if_false, putFiles, ih]

theorem overrides_of_plain (h : ∀ l ∈ ls, l.Plain) (ho : ∀ l ∈ ls, l.isOverride) :
    overrides ls = .ok (ls.flatMap Layer.puts) := by
  induction ls with
  | nil => rfl
  | cons l ls ih =>
    obtain ⟨⟨ps, hps, -⟩, hls⟩ := forall_mem_cons.1 h
    obtain ⟨hol, hols⟩ := forall_mem_cons.1 ho
    have hr := ih hls hols
    cases l with
    | override k v =>
      cases hk : Key.parse k with
      | none => simp [Layer.puts?, hk] at hps
      | some k' => simp [overrides, Layer.puts, Layer.puts?, hk, hr, Except.map]
    | _ => cases hol

theorem putFiles_cons (h : l.fromFile? = some ps) (t : Value) (ls : List Layer) :
    putFiles t (l :: ls) = putFiles (putOverrides t ps) ls := by
  rw [Layer.fromFile?] at h
  cases hl : l.text? with
  | error e => simp [hl] at h
  | ok s? =>
    cases s? with
    | none =>
      obtain rfl : [] = ps := by simpa [hl] using h
      simp only [putFiles, hl]
      rfl
    | some s =>
      cases hv : readFile s with
      | error e => simp [hl, hv, Except.toOption] at h
      | ok v =>
        obtain rfl : filePuts v = ps := by simpa [hl, hv, Except.toOption] using h
        simp only [putFiles, hl, hv, putFile_eq]

theorem putFiles_of_plain (h : ∀ l ∈ ls, l.Plain) (ho : ∀ l ∈ ls, ¬ l.isOverride) (t : Value) :
    putFiles t ls = .ok (putOverrides t (ls.flatMap Layer.puts)) := by
  induction ls generalizing t with
  | nil => rfl
  | cons l ls ih =>
    obtain ⟨⟨ps, hps, -⟩, hls⟩ := forall_mem_cons.1 h
    obtain ⟨hol, hols⟩ := forall_mem_cons.1 ho
    have hf : l.fromFile? = some ps := by
      cases l with
      | override k v => exact absurd rfl hol
      | _ => exact hps
    have hp : l.puts = ps := by rw [Layer.puts, hps, Option.getD_some]
    rw [putFiles_cons hf, ih hls hols, flatMap_cons, hp, putOverrides, putOverrides, putOverrides,
      foldl_append]

theorem merged_congr (ho : overridesOf ms = overridesOf ls) (hf : filesOf ms = filesOf ls) :
    merged ms = merged ls := by
  rw [merged, merged, ← overrides_overridesOf ms, ← overrides_overridesOf ls, ho,
    ← putFiles_filesOf ms, ← putFiles_filesOf ls, hf]

theorem of?_of_stands {w : Value} (h : x.Stands t (some w)) : x.of? t = some w := by
  obtain ⟨s, hs, -, hv⟩ := h
  rw [Setting.of?, hs, Option.bind_some, hv]

theorem exists_merged_stands (h : ∀ l ∈ ls, l.Plain) :
    ∃ t, merged ls = .ok t ∧ ∀ x : Setting, x.Stands t (some (effective ls x)) := by
  have hov : ∀ l ∈ overridesOf ls, l.isOverride := fun l hl => (mem_filter.1 hl).2
  have hfi : ∀ l ∈ filesOf ls, ¬ l.isOverride := fun l hl => by simpa using (mem_filter.1 hl).2
  have hop : ∀ l ∈ overridesOf ls, l.Plain := fun l hl => h l (mem_filter.1 hl).1
  have hfp : ∀ l ∈ filesOf ls, l.Plain := fun l hl => h l (mem_filter.1 hl).1
  have hp (ks : List Layer) (hks : ∀ l ∈ ks, l.Plain) : ∀ p ∈ ks.flatMap Layer.puts, p.Plain := by
    intro p hp
    obtain ⟨l, hl, hp⟩ := mem_flatMap.1 hp
    exact (hks l hl).of_mem_puts hp
  have hm : merged ls = .ok (putOverrides (putOverrides defaults ((filesOf ls).flatMap Layer.puts))
      ((overridesOf ls).flatMap Layer.puts)) := by
    rw [merged, ← overrides_overridesOf, overrides_of_plain hop hov, ← putFiles_filesOf,
      putFiles_of_plain hfp hfi]
    rfl
  refine ⟨_, hm, fun x => ?_⟩
  have hs := ((x.stands_defaults.putOverrides fun p hp' => (hp _ hfp p hp').allows x).putOverrides
    fun p hp' => (hp _ hop p hp').allows x)
  rw [← x.last?_eq, ← x.last?_eq, ← Option.or_assoc, Option.or_some] at hs
  exact hs

def converted (value : Setting → Value) : Except Error Settings :=
  match (value .minLength).toNat?, (value .useVariants).toBool?, (value .path).toText? with
  | some m, some u, some p => .ok ⟨m, u, p⟩
  | _, _, _ => .error .wrongType

theorem generateOf_of_isTable {a b : Value} (ht : s.isTable = true)
    (ha : s.get? "min_length" = some a) (hb : s.get? "use_variants" = some b) :
    generateOf s =
      match a.toNat?, b.toBool? with
      | some m, some u => .ok (m, u)
      | _, _ => .error .wrongType := by
  cases s with
  | table fs =>
    have ha : fs.lookup "min_length" = some a := ha
    have hb : fs.lookup "use_variants" = some b := hb
    cases hm : a.toNat? with
    | none => exact generateOf_table_eq_wrongType ha hm
    | some m =>
      cases hu : b.toBool? with
      | none =>
        rw [generateOf, section?_generate, ha, hb]
        simp [typed, hm, hu, bind, Except.bind]
      | some u => exact generateOf_table_eq_ok_iff.2 ⟨⟨a, ha, hm⟩, b, hb, hu⟩
  | _ => cases ht

theorem dictionaryOf_of_isTable {a : Value} (ht : s.isTable = true)
    (ha : s.get? "path" = some a) :
    dictionaryOf s =
      match a.toText? with
      | some p => .ok p
      | none => .error .wrongType := by
  cases s with
  | table fs =>
    have hs : section? ["path"] (.table fs) = some [fs.lookup "path"] := rfl
    have ha : fs.lookup "path" = some a := ha
    rw [dictionaryOf, hs, ha]
    cases hp : a.toText? with
    | none => simp [typed, hp, bind, Except.bind]
    | some p => simp [typed, hp, required, bind, Except.bind]
  | _ => cases ht

theorem ofValue_of_stands {value : Setting → Value} (h : ∀ x : Setting, x.Stands t (some (value x))) :
    ofValue t = converted value := by
  obtain ⟨s, hs, hst, hm⟩ := h .minLength
  obtain ⟨s', hs', -, hu⟩ := h .useVariants
  obtain ⟨d, hd, hdt, hp⟩ := h .path
  obtain rfl : s = s' := Option.some.inj (hs.symm.trans hs')
  have hs : t.get? "generate" = some s := hs
  have hd : t.get? "dictionary" = some d := hd
  rw [ofValue, hs, hd, Option.getD_some, Option.getD_some, generateOf_of_isTable hst hm hu,
    dictionaryOf_of_isTable hdt hp, converted]
  cases (value .minLength).toNat? with
  | none => rfl
  | some m =>
    cases (value .useVariants).toBool? with
    | none => rfl
    | some u => cases (value .path).toText? <;> rfl

/-- The settings of plain layers, in whatever order files and overrides stand, are their effective
values, each read as what it should be: the last override of a setting, or else its value in the last
file that has one, or else the built-in one. What is put aside by this may be of any type, and it does
not matter where among the files an override stands. -/
theorem load_effective (h : ∀ l ∈ ls, l.Plain) :
    (∃ t, merged ls = .ok t ∧ ∀ x : Setting, x.of? t = some (effective ls x)) ∧
    load ls = converted (effective ls) ∧
    ∀ ms, overridesOf ms = overridesOf ls → filesOf ms = filesOf ls → load ms = load ls := by
  obtain ⟨t, ht, hx⟩ := exists_merged_stands h
  refine ⟨⟨t, ht, fun x => of?_of_stands (hx x)⟩, ?_, fun ms ho hf => ?_⟩
  · rw [load, ht]
    exact ofValue_of_stands hx
  · rw [load, load, merged_congr ho hf]

def mixedLayers : List Layer := [
  .override "dictionary.path" (.text "/b"),
  .required (some "[generate]\nmin_length = \"x\"\n[dictionary]\npath = \"/a\"".toUTF8.toList),
  .optional none,
  .override "generate.min_length" (.integer 3),
  .optional (some "other = 5\ngenerate.use_variants = 1".toUTF8.toList)]

theorem load_effective_mixedLayers :
    (∀ l ∈ mixedLayers, l.Plain) ∧ load mixedLayers = .ok ⟨3, true, "/b"⟩ ∧
      load (filesOf mixedLayers ++ overridesOf mixedLayers) = .ok ⟨3, true, "/b"⟩ := by
  have h : ∀ l ∈ mixedLayers, l.Plain := by decide +kernel
  have hc : converted (effective mixedLayers) = .ok ⟨3, true, "/b"⟩ :=
    eq_ok_of_toOption (by decide +kernel)
  have hl : load mixedLayers = .ok ⟨3, true, "/b"⟩ := (load_effective h).2.1.trans hc
  exact ⟨h, hl, ((load_effective h).2.2 _ rfl rfl).trans hl⟩

end Settings
end Initialism
