import Mathlib.Algebra.Group.Nat.Defs
import Mathlib.Algebra.Ring.Int.Defs
import Initialism.CommandLine.Session
import Initialism.Proofs.Settings.Layers

/-! What the arguments set over the files: each flag changes its own setting, once all files are
put together. A number from the upper half of the range of 64 bits does not come through, since it
is kept with a sign. -/
namespace Initialism
open List

namespace CommandLine.Invocation
open Settings
variable {i : Invocation}

def withMinLength (i : Invocation) (n : Nat) : Invocation := { i with minLength? := some n }

theorem natOfText_toString {n : Nat} (h : n < UInt64.size) :
    Value.natOfText (toString n) = some n := by
  have hd : ∀ c ∈ Nat.toDigits 10 n, c.isDigit :=
    fun c hc => Nat.isDigit_of_mem_toDigits (by decide) (by decide) hc
  have ha : (Nat.toDigits 10 n ≠ [] && (Nat.toDigits 10 n).all Char.isDigit) = true := by
    simpa [Nat.toDigits_ne_nil] using hd
  have hv : (Nat.toDigits 10 n).foldl (fun n d => 10 * n + (d.toNat - 48)) 0 = n :=
    Nat.ofDigitChars_ten_toDigits
  rw [Value.natOfText, Nat.toString_eq_ofList_toDigits, String.toList_ofList]
  dsimp only
  split
  · next r hr => exact absurd (hd '+' (hr ▸ mem_cons_self)) (by decide)
  · rw [if_pos ha, hv, if_pos h]

theorem lt_of_natOfText {v : String} {n : Nat} (h : Value.natOfText v = some n) :
    n < UInt64.size := by
  rw [Value.natOfText] at h
  obtain ⟨-, h⟩ := Option.ite_none_right_eq_some.1 h
  obtain ⟨hn, h⟩ := Option.ite_none_right_eq_some.1 h
  exact Option.some.inj h ▸ hn

theorem bmod_two_pow {n : Nat} (h : n < 2 ^ 64) :
    (n : Int).bmod (2 ^ 64) = if n < 2 ^ 63 then (n : Int) else n - 2 ^ 64 := by
  have hs : (n : Int) % (2 ^ 64 : Nat) = n := Int.emod_eq_of_lt (by omega) (by omega)
  rw [Int.bmod_def, hs]
  split <;> split <;> omega

/-- The lower half of the range comes through as it is, the upper half not at all. -/
theorem toNat?_wrapped {n : Nat} (h : n < UInt64.size) :
    (Value.integer (wrapped n)).toNat? = if n < 2 ^ 63 then some n else none := by
  have hw : wrapped n = if n < 2 ^ 63 then (n : Int) else n - 2 ^ 64 := bmod_two_pow h
  have hs : UInt64.size = 2 ^ 64 := rfl
  rw [hs] at h
  rw [Value.toNat?, hw, hs]
  split
  · have hc : (decide (0 ≤ (n : Int)) && decide ((n : Int) < (2 ^ 64 : Nat))) = true := by
      simp only [Bool.and_eq_true, decide_eq_true_eq]
      omega
    rw [if_pos hc, Int.toNat_natCast]
  · rw [if_neg]
    simp only [Bool.and_eq_true, decide_eq_true_eq]
    omega

def overridden (i : Invocation) : List (Key × Value) :=
  (i.minLength?.map fun n =>
      (Key.inSection "generate" "min_length", Value.integer (wrapped n))).toList ++
    (if i.useVariants then [(.inSection "generate" "use_variants", .boolean true)] else []) ++
    (i.dictionary?.map fun p => (Key.inSection "dictionary" "path", Value.text p)).toList

theorem overrides_layers (i : Invocation) (user? named? : Option (List UInt8)) :
    overrides (i.layers user? named?) = .ok i.overridden := by
  obtain ⟨cs, u, m?, d?, c?, f?⟩ := i
  cases u <;> cases m? <;> cases d? <;> cases c? <;> rfl

def fileLayers (i : Invocation) (user? named? : Option (List UInt8)) : List Layer :=
  [.optional user?] ++ (i.config?.map fun _ => Layer.required named?).toList

theorem putFiles_layers (i : Invocation) (user? named? : Option (List UInt8)) (t : Value) :
    putFiles t (i.layers user? named?) = putFiles t (i.fileLayers user? named?) := by
  rw [layers, append_assoc, append_assoc]
  refine putFiles_append ?_ _ t
  obtain ⟨cs, u, m?, d?, c?, f?⟩ := i
  cases u <;> cases m? <;> cases d? <;> simp [Layer.text?]

theorem merged_layers (i : Invocation) (user? named? : Option (List UInt8)) :
    merged (i.layers user? named?) =
      (putFiles defaults (i.fileLayers user? named?)).map (putOverrides · i.overridden) := by
  rw [merged, overrides_layers, putFiles_layers]
  rfl

theorem overridden_withMinLength (h : i.minLength? = none) (n : Nat) :
    (i.withMinLength n).overridden =
      (.inSection "generate" "min_length", .integer (wrapped n)) :: i.overridden := by
  simp [overridden, withMinLength, h]
  rfl

theorem get?_generate_overridden (h : i.minLength? = none) (t : Value) :
    ((putOverrides t i.overridden).get? "generate").getD .null =
      switched i.useVariants ((t.get? "generate").getD .null) := by
  have hv (t : Value) : (t.putKey (.inSection "generate" "use_variants") (.boolean true)).get?
      "generate" = some (((t.get? "generate").getD .null).set "use_variants" (.boolean true)) :=
    get?_putKey_inSection t _ "generate" "use_variants"
  have hd (t : Value) (p : String) : (t.putKey (.inSection "dictionary" "path") (.text p)).get?
      "generate" = t.get? "generate" := get?_putKey_of_ne (by decide) t _ "path"
  obtain ⟨cs, u, m?, d?, c?, f?⟩ := i
  obtain rfl : m? = none := h
  cases u <;> cases d? <;> simp [overridden, putOverrides, switched, hv, hd]

theorem give_minLength_eq_ok_iff {argument v : String} {n : Nat} (h : i.minLength? = none) :
    i.give argument .minLength v = .ok (i.withMinLength n) ↔ Value.natOfText v = some n := by
  simp only [give, h, Option.isSome_none]
  cases Value.natOfText v with
  | none => simp
  | some m => simp [withMinLength]

theorem give_minLength_iff {argument : String} {n : Nat} (h : i.minLength? = none) :
    (∃ v, i.give argument .minLength v = .ok (i.withMinLength n)) ↔ n < UInt64.size := by
  constructor
  · intro ⟨v, hv⟩
    exact lt_of_natOfText ((give_minLength_eq_ok_iff h).1 hv)
  · intro hn
    exact ⟨toString n, (give_minLength_eq_ok_iff h).2 (natOfText_toString hn)⟩

theorem ofValue_putOverrides_minLength {t : Value} {s : Settings} (h : i.minLength? = none)
    (hs : ofValue (putOverrides t i.overridden) = .ok s) (w : Int) :
    ofValue (putOverrides (t.putKey (.inSection "generate" "min_length") (.integer w)) i.overridden) =
      match (Value.integer w).toNat? with
      | some n =>
        if (((putOverrides t i.overridden).get? "generate").getD .null).isList then .error .malformed
        else .ok { s with minLength := n }
      | none => .error .wrongType := by
  have hg : ((t.putKey (.inSection "generate" "min_length") (.integer w)).get? "generate").getD .null =
      ((t.get? "generate").getD .null).set "min_length" (.integer w) :=
    congrArg (·.getD .null) (get?_putKey_inSection t (.integer w) "generate" "min_length")
  have hd : (putOverrides (t.putKey (.inSection "generate" "min_length") (.integer w))
      i.overridden).get? "dictionary" = (putOverrides t i.overridden).get? "dictionary" :=
    get?_putOverrides_congr (get?_putKey_of_ne (by decide) t _ _) i.overridden
  obtain ⟨hgen, hdict⟩ := ofValue_eq_ok_iff.1 hs
  rw [get?_generate_overridden h] at hgen ⊢
  rw [ofValue, hd, hdict, get?_generate_overridden h, hg, generateOf_switched_set hgen]
  cases (Value.integer w).toNat? with
  | none => rfl
  | some n =>
    dsimp only
    split <;> rfl

theorem load_layers_withMinLength {user? named? : Option (List UInt8)} {s : Settings} {n : Nat}
    (hi : i.minLength? = none) (hs : load (i.layers user? named?) = .ok s) (hn : n < UInt64.size) :
    load ((i.withMinLength n).layers user? named?) =
      if 2 ^ 63 ≤ n then .error .wrongType
      else if listsGenerate (i.layers user? named?) then .error .malformed
      else .ok { s with minLength := n } := by
  obtain ⟨v, hv, hs⟩ := load_eq_ok_iff.1 hs
  have hf : (i.withMinLength n).fileLayers user? named? = i.fileLayers user? named? := rfl
  rw [listsGenerate, hv]
  rw [merged_layers] at hv
  rw [load, merged_layers, hf, overridden_withMinLength hi]
  cases ht : putFiles defaults (i.fileLayers user? named?) with
  | error e =>
    rw [ht] at hv
    cases hv
  | ok t =>
    rw [ht] at hv
    obtain rfl := Except.ok.inj hv
    have hr := ofValue_putOverrides_minLength hi hs (wrapped n)
    rw [toNat?_wrapped hn] at hr
    refine hr.trans ?_
    by_cases hlt : n < 2 ^ 63
    · rw [if_pos hlt, if_neg (Nat.not_le_of_lt hlt)]
    · rw [if_neg hlt, if_pos (Nat.le_of_not_lt hlt)]

/-- Every number of 64 bits can be given as the least length. One from the lower half of the range
takes the place of the least length in settings that load without it and leaves the others as they are,
unless the files have the section in a list. One from the upper half is refused. -/
theorem load_withMinLength (user? named? : Option (List UInt8)) (argument : String) {s : Settings}
    (hi : i.minLength? = none) (hs : load (i.layers user? named?) = .ok s) :
    (∀ n, (∃ v, i.give argument .minLength v = .ok (i.withMinLength n)) ↔ n < UInt64.size) ∧
    ∀ n < UInt64.size, load ((i.withMinLength n).layers user? named?) =
      if 2 ^ 63 ≤ n then .error .wrongType
      else if listsGenerate (i.layers user? named?) then .error .malformed
      else .ok { s with minLength := n } :=
  ⟨fun _ => give_minLength_iff hi, fun _ hn => load_layers_withMinLength hi hs hn⟩

theorem load_withMinLength_three :
    load ((empty.addConstraints ["ax"]).layers none none) = .ok ⟨4, false, "/usr/share/dict/words"⟩ ∧
    load (((empty.addConstraints ["ax"]).withMinLength 3).layers none none) =
      .ok ⟨3, false, "/usr/share/dict/words"⟩ ∧
    load ((empty.addConstraints ["ax"]).layers (some "generate = [5, false]".toUTF8.toList) none) =
      .ok ⟨5, false, "/usr/share/dict/words"⟩ ∧
    load (((empty.addConstraints ["ax"]).withMinLength 3).layers
      (some "generate = [5, false]".toUTF8.toList) none) = .error .malformed := by
  have hs : load ((empty.addConstraints ["ax"]).layers none none) =
    .ok ⟨4, false, "/usr/share/dict/words"⟩ := by rfl
  have hl : load ((empty.addConstraints ["ax"]).layers (some "generate = [5, false]".toUTF8.toList)
    none) = .ok ⟨5, false, "/usr/share/dict/words"⟩ := eq_ok_of_toOption (by decide +kernel)
  have hg : listsGenerate ((empty.addConstraints ["ax"]).layers
    (some "generate = [5, false]".toUTF8.toList) none) = true := by decide +kernel
  have hm := (load_withMinLength _ none "-m" rfl hl).2 3 (by decide)
  rw [hg] at hm
  exact ⟨hs, (load_withMinLength none none "-m" rfl hs).2 3 (by decide), hl, hm⟩

theorem not_load_withMinLength_two_pow :
    load ((empty.addConstraints ["ax"]).layers none none) = .ok ⟨4, false, "/usr/share/dict/words"⟩ ∧
    (∃ v, (empty.addConstraints ["ax"]).give "-m" .minLength v =
      .ok ((empty.addConstraints ["ax"]).withMinLength (2 ^ 63))) ∧
    ¬ ∃ s, load (((empty.addConstraints ["ax"]).withMinLength (2 ^ 63)).layers none none) = .ok s ∧
      s.minLength = 2 ^ 63 := by
  have hs : load ((empty.addConstraints ["ax"]).layers none none) =
    .ok ⟨4, false, "/usr/share/dict/words"⟩ := by rfl
  refine ⟨hs, (give_minLength_iff rfl).2 (by decide), ?_⟩
  rintro ⟨s, hm, -⟩
  rw [load_layers_withMinLength rfl hs (by decide), if_pos (Nat.le_refl _)] at hm
  cases hm

end CommandLine.Invocation
end Initialism
