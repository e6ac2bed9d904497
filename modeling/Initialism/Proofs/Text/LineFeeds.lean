import Initialism.Proofs.Spelling.Product
import Initialism.Text.Json
import Initialism.WordList

/-! Texts without line feeds. The words of a word list are such texts, since each comes from one
line. Neither a change of case nor another spelling brings a line feed in, and a string of JSON never
has one. -/
namespace Initialism
open List

namespace Text
variable {c : Char} {s : String} {cs : List Char}

def OnLine (s : String) : Prop := '\n' ∉ s.toList

theorem eq_of_ofNat_eq_lineFeed {n : Nat} (h : Char.ofNat n = '\n') : n = 10 := by
  have hn := congrArg Char.toNat h
  rw [Char.toNat_ofNat] at hn
  split at hn
  · exact hn
  · cases hn

theorem lineFeed_notMem_mapped {long : List (Nat × List Nat)} {rows : List CaseRow}
    (hl : ∀ e ∈ long, 10 ∉ e.2) (hr : ∀ r ∈ rows, 10 < r.image) (hc : c ≠ '\n') :
    '\n' ∉ mapped long rows c := by
  intro h
  obtain ⟨ns, hns, hi⟩ | ⟨r, hrow, -, -, hi⟩ | hi := mapped_cases long rows c
  · rw [hi] at h
    obtain ⟨n, hn, hnl⟩ := mem_map.1 h
    exact hl _ hns (eq_of_ofNat_eq_lineFeed hnl ▸ hn)
  · rw [hi] at h
    have hn := eq_of_ofNat_eq_lineFeed (mem_singleton.1 h).symm
    have hlt := hr r hrow
    omega
  · rw [hi] at h
    exact hc (mem_singleton.1 h).symm

/-- A change of case by `f` in ASCII and by tables past it brings no line feed in. -/
theorem lineFeed_notMem_cased {f : Char → Char} {long : List (Nat × List Nat)} {rows : List CaseRow}
    (hf : ∀ n < 0x80, n ≠ 10 → '\n' ≠ f (Char.ofNat n)) (hl : ∀ e ∈ long, 10 ∉ e.2)
    (hr : ∀ r ∈ rows, 10 < r.image) (hc : c ≠ '\n') :
    '\n' ∉ if c.toNat < 0x80 then [f c] else mapped long rows c := by
  split
  · next h =>
    have hn : c.toNat ≠ 10 := fun hn => hc (Char.toNat_inj.1 hn)
    simpa using hf c.toNat h hn
  · exact lineFeed_notMem_mapped hl hr hc

theorem lineFeed_notMem_lower (hc : c ≠ '\n') : '\n' ∉ lower c :=
  lineFeed_notMem_cased (by decide) (by decide) (by decide +kernel) hc

theorem lineFeed_notMem_upper (hc : c ≠ '\n') : '\n' ∉ upper c :=
  lineFeed_notMem_cased (by decide) (by decide +kernel) (by decide +kernel) hc

theorem lineFeed_notMem_flatMap_upper (h : '\n' ∉ cs) : '\n' ∉ cs.flatMap upper := by
  intro hn
  obtain ⟨c, hc, hn⟩ := mem_flatMap.1 hn
  exact lineFeed_notMem_upper (fun he => h (he ▸ hc)) hn

theorem lineFeed_notMem_lowerAfter (before : List Char) (h : '\n' ∉ cs) :
    '\n' ∉ lowerAfter before cs := by
  induction cs generalizing before with
  | nil => exact h
  | cons c cs ih =>
    obtain ⟨hc, hcs⟩ := not_or.1 (mt mem_cons.2 h)
    have hr := ih (c :: before) hcs
    rw [lowerAfter]
    split
    · rw [mem_cons, not_or]
      refine ⟨?_, hr⟩
      split <;> decide
    · rw [mem_append, not_or]
      exact ⟨lineFeed_notMem_lower (Ne.symm hc), hr⟩

theorem OnLine.lowerText (h : OnLine s) : OnLine (lowerText s) := by
  rw [OnLine, Text.lowerText, String.toList_ofList]
  exact lineFeed_notMem_lowerAfter [] h

theorem trimBlanks_subset (cs : List Char) : trimBlanks cs ⊆ cs := by
  intro c hc
  rw [trimBlanks, mem_reverse] at hc
  have hr := (dropWhile_suffix isBlank).subset hc
  rw [mem_reverse] at hr
  exact (dropWhile_suffix isBlank).subset hr

theorem OnLine.trim (h : OnLine s) : OnLine (trim s) := by
  rw [OnLine, Text.trim, String.toList_ofList]
  exact fun hn => h (trimBlanks_subset _ hn)

theorem eq_flatMap_of_decode? {bytes : List UInt8} (h : decode? bytes = some s) :
    bytes = s.toList.flatMap String.utf8EncodeChar := by
  rw [decode?, String.fromUTF8?] at h
  split at h
  · next hv =>
    obtain rfl := Option.some.inj h
    have he := @String.utf8Encode_toList (String.fromUTF8 bytes.toByteArray hv)
    exact toByteArray_inj.1 he.symm
  · cases h

theorem onLine_of_decode? {bytes : List UInt8} (h : decode? bytes = some s) (hb : 10 ∉ bytes) :
    OnLine s := by
  intro hn
  rw [eq_flatMap_of_decode? h] at hb
  exact hb (mem_flatMap.2 ⟨'\n', hn, by decide⟩)

theorem lineFeed_notMem_intercalate {sep : List Char} {ls : List (List Char)} (hs : '\n' ∉ sep)
    (h : ∀ l ∈ ls, '\n' ∉ l) : '\n' ∉ sep.intercalate ls := by
  induction ls with
  | nil => exact not_mem_nil
  | cons l ls ih =>
    obtain ⟨hl, hls⟩ := forall_mem_cons.1 h
    cases ls with
    | nil => simpa using hl
    | cons l' ls =>
      rw [intercalate_cons_cons, mem_append, mem_append, not_or, not_or]
      exact ⟨⟨hl, hs⟩, ih hls⟩

theorem splitOn_flatMap_lineFeed {ls : List (List Char)} (h : ∀ l ∈ ls, '\n' ∉ l) :
    (ls.flatMap (· ++ ['\n'])).splitOn '\n' = ls ++ [[]] := by
  induction ls with
  | nil => rfl
  | cons l ls ih =>
    obtain ⟨hl, hls⟩ := forall_mem_cons.1 h
    rw [flatMap_cons, append_assoc, singleton_append, splitOn_append_cons_self_of_not_mem hl, ih hls,
      cons_append]

theorem lineFeed_notMem_fourDigits : ∀ n < 32, '\n' ∉ fourDigits (Char.ofNat n) := by decide

theorem lineFeed_notMem_jsonChar (c : Char) : '\n' ∉ jsonChar c := by
  by_cases hn : c = '\n'
  · subst hn
    decide
  · rw [jsonChar]
    -- The characters with an escape of their own.
    iterate 6
      split
      · decide
    split
    · next h => simpa using lineFeed_notMem_fourDigits c.toNat h
    · simpa using Ne.symm hn

theorem onLine_jsonString (s : String) : OnLine (jsonString s) := by
  rw [OnLine, jsonString, String.toList_ofList]
  intro h
  obtain ⟨c, -, hc⟩ : ∃ c ∈ s.toList, '\n' ∈ jsonChar c := by simpa using h
  exact lineFeed_notMem_jsonChar c hc

end Text

theorem notMem_of_mem_linesFrom {l data m : List UInt8} (hl : 10 ∉ l)
    (h : m ∈ (linesFrom l data).toList) : 10 ∉ m := by
  induction data generalizing l with
  | nil =>
    rw [linesFrom] at h
    split at h
    · cases h
    · obtain rfl := mem_singleton.1 h
      simpa using hl
  | cons b data ih =>
    rw [linesFrom] at h
    split at h
    · cases mem_cons.1 h with
      | inl h =>
        subst h
        simpa using hl
      | inr h => exact ih not_mem_nil h
    · next hb => exact ih (by simp [hl, Ne.symm hb]) h

namespace WordList
open Text (OnLine)
variable {s : String}

theorem onLine_of_mem_answersAfter {k : Nat} {ls : Enumeration (List UInt8)}
    (hl : ∀ l ∈ ls.toList, 10 ∉ l) (h : .ok s ∈ (answersAfter k ls).toList) : OnLine s := by
  induction ls generalizing k with
  | done => cases h
  | found l ls ih =>
    obtain ⟨hl, hls⟩ := forall_mem_cons.1 hl
    rw [answersAfter] at h
    split at h
    · have hr := (mem_cons.1 h).resolve_left nofun
      exact ih () hls hr
    · next t ht =>
      split at h
      · exact ih () hls h
      · cases mem_cons.1 h with
        | inl h =>
          obtain rfl := Except.ok.inj h
          exact (Text.onLine_of_decode? ht hl).trim
        | inr h => exact ih () hls h

theorem mem_of_mem_go {e : Enumeration (Except Nat String)} (h : s ∈ (words.go e).toList) :
    .ok s ∈ e.toList := by
  induction e with
  | done => cases h
  | found a e ih =>
    cases a with
    | error n => cases h
    | ok t =>
      rw [words.go] at h
      cases mem_cons.1 h with
      | inl h => exact h ▸ mem_cons_self
      | inr h => exact mem_cons_of_mem _ (ih () h)

theorem onLine_of_mem_words {path : String} {c : Contents}
    (h : s ∈ (ofContents path c).words.toList) : OnLine s := by
  cases c with
  | directory => cases h
  | bytes data =>
    have hl : ∀ l ∈ (linesFrom [] data).toList, 10 ∉ l := fun l hl =>
      notMem_of_mem_linesFrom not_mem_nil hl
    exact onLine_of_mem_answersAfter hl (mem_of_mem_go h)

end WordList

namespace Spelling
open Text (OnLine)
variable {u p : List Char} {us ps : List (List Char)} {s t : String}

theorem lineFeed_notMem_table : ∀ e ∈ table, ∀ p ∈ e.2, '\n' ∉ p := by decide

theorem lineFeed_notMem_options (hu : '\n' ∉ u) (h : p ∈ options u) : '\n' ∉ p := by
  obtain rfl | ⟨os, hos, hp⟩ := mem_options.1 h
  · exact hu
  · exact lineFeed_notMem_table (u, os) hos p hp

theorem lineFeed_notMem_flatten (hu : '\n' ∉ us.flatten)
    (h : Forall₂ (fun p u => p ∈ options u) ps us) : '\n' ∉ ps.flatten := by
  induction h with
  | nil => exact hu
  | cons hp _ ih =>
    rw [flatten_cons, mem_append, not_or] at hu ⊢
    exact ⟨lineFeed_notMem_options hu.1 hp, ih hu.2⟩

theorem onLine_of_mem_ofWord (hs : OnLine s) (h : t ∈ (ofWord s).toList) : OnLine t := by
  obtain ⟨-, ps, rfl, hps⟩ := mem_ofWord.1 h
  rw [OnLine, String.toList_ofList]
  refine lineFeed_notMem_flatten ?_ hps
  rw [(cut_unitsOf s).flatten]
  exact hs.trim.lowerText

end Spelling
end Initialism
