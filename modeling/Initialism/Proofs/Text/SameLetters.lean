import Mathlib
import Initialism.Text.Case

/-! Texts that differ in case only. In ASCII these are the texts with the same upper case,
since there the upper case of a letter can be told from its lower case and the other way round. -/
namespace Initialism.Text
open List

abbrev SameLetters : List Char → List Char → Prop := Forall₂ fun c d => sameLetter c d = true

theorem sameLetter_congr {a b c d : Char} (hac : sameLetter a c = true)
    (hbd : sameLetter b d = true) : sameLetter a b = sameLetter c d := by
  rw [sameLetter_iff] at hac hbd
  rw [Bool.eq_iff_iff, sameLetter_iff, sameLetter_iff, hac, hbd]

theorem sameLetters_cons {c d : Char} {u v : List Char} :
    SameLetters (c :: u) (d :: v) ↔ sameLetter c d = true ∧ SameLetters u v := forall₂_cons

def isAscii (c : Char) : Bool := c.toNat < 0x80

variable {c d : Char} {u v : List Char}

theorem upper_of_isAscii (h : isAscii c) : upper c = [c.toUpper] := if_pos (of_decide_eq_true h)

theorem lower_of_isAscii (h : isAscii c) : lower c = [c.toLower] := if_pos (of_decide_eq_true h)

theorem sameLetter_iff_upper_eq (hc : isAscii c) (hd : isAscii d) :
    sameLetter c d = true ↔ upper c = upper d := by
  rw [sameLetter_iff, lower_of_isAscii hc, lower_of_isAscii hd, upper_of_isAscii hc,
    upper_of_isAscii hd, singleton_inj, singleton_inj]
  constructor
  · intro h
    rw [← c.toUpper_toLower_eq_toUpper, h, d.toUpper_toLower_eq_toUpper]
  · intro h
    rw [← c.toLower_toUpper_eq_toLower, h, d.toLower_toUpper_eq_toLower]

theorem flatMap_upper_eq_iff (hu : ∀ c ∈ u, isAscii c) (hv : ∀ c ∈ v, isAscii c) :
    u.flatMap upper = v.flatMap upper ↔ SameLetters u v := by
  induction u generalizing v with
  | nil =>
    cases v with
    | nil => simp
    | cons d v => simp [upper_of_isAscii (hv d mem_cons_self)]
  | cons c u ih =>
    obtain ⟨hc, hu⟩ := forall_mem_cons.1 hu
    cases v with
    | nil => simp [upper_of_isAscii hc]
    | cons d v =>
      obtain ⟨hd, hv⟩ := forall_mem_cons.1 hv
      rw [flatMap_cons, flatMap_cons, sameLetters_cons, sameLetter_iff_upper_eq hc hd, ← ih hu hv,
        upper_of_isAscii hc, upper_of_isAscii hd, singleton_append, singleton_append, cons.injEq,
        singleton_inj]

theorem upperText_eq_iff {s t : String} (hs : ∀ c ∈ s.toList, isAscii c)
    (ht : ∀ c ∈ t.toList, isAscii c) :
    upperText s = upperText t ↔ SameLetters s.toList t.toList := by
  rw [upperText, upperText, String.ofList_inj, flatMap_upper_eq_iff hs ht]

end Initialism.Text
