import Mathlib.Data.List.DropRight
import Mathlib.Data.List.ReduceOption
import Initialism.Proofs.Text.LineFeeds

/-! Word lists as texts. A line feed is one byte, and that byte is no part of any other character, so
bytes fall into lines just where their text does. What a list holds are the lines without the blanks
around them, up to the first that is no text, and any words written one on a line are read back. -/
namespace Initialism
open List

namespace Text
variable {cs u v w : List Char} {c : Char}

def encode (cs : List Char) : List UInt8 := cs.flatMap String.utf8EncodeChar

theorem decode?_encode (cs : List Char) : decode? (encode cs) = some (String.ofList cs) := by
  have hv : (encode cs).toByteArray.IsValidUTF8 := (String.ofList cs).isValidUTF8
  rw [decode?, String.fromUTF8?, dif_pos hv]
  rfl

theorem eq_encode_of_decode? {bytes : List UInt8} {s : String} (h : decode? bytes = some s) :
    bytes = encode s.toList :=
  eq_flatMap_of_decode? h

theorem eq_lineFeed_of_mem_utf8EncodeChar (h : 10 ∈ String.utf8EncodeChar c) : c = '\n' := by
  have byte {n : Nat} (h : 10 = UInt8.ofNat n) : n % 256 = 10 := by
    simpa using (congrArg UInt8.toNat h).symm
  have hn : c.val.toNat = 10 := by
    simp only [String.utf8EncodeChar] at h
    split at h
    · have := byte (mem_singleton.1 h)
      omega
    · split at h
      · simp only [mem_cons, not_mem_nil, or_false] at h
        rcases h with h | h <;> have := byte h <;> omega
      · split at h
        · simp only [mem_cons, not_mem_nil, or_false] at h
          rcases h with h | h | h <;> have := byte h <;> omega
        · simp only [mem_cons, not_mem_nil, or_false] at h
          rcases h with h | h | h | h <;> have := byte h <;> omega
  exact Char.toNat_inj.1 hn

theorem lineFeed_notMem_encode (h : '\n' ∉ cs) : 10 ∉ encode cs := by
  intro hm
  obtain ⟨c, hc, hm⟩ := mem_flatMap.1 hm
  exact h (eq_lineFeed_of_mem_utf8EncodeChar hm ▸ hc)

/-- Bytes fall into lines as their text does; `w` are the characters of the line so far. -/
theorem splitOn_encode_append (hw : '\n' ∉ w) (cs : List Char) :
    (encode (w ++ cs)).splitOn 10 = ((w ++ cs).splitOn '\n').map encode := by
  induction cs generalizing w with
  | nil =>
    rw [append_nil, splitOn_eq_singleton hw, splitOn_eq_singleton (lineFeed_notMem_encode hw)]
    rfl
  | cons c cs ih =>
    by_cases hc : c = '\n'
    · have he : encode (w ++ c :: cs) = encode w ++ 10 :: encode cs := by
        rw [hc, encode, flatMap_append, flatMap_cons]
        rfl
      have hr : (encode cs).splitOn 10 = (cs.splitOn '\n').map encode := ih (w := []) not_mem_nil
      rw [he, splitOn_append_cons_self_of_not_mem (lineFeed_notMem_encode hw), hc,
        splitOn_append_cons_self_of_not_mem hw, map_cons, hr]
    · have hw : '\n' ∉ w ++ [c] := by simp [hw, Ne.symm hc]
      simpa using ih hw

theorem splitOn_encode (cs : List Char) : (encode cs).splitOn 10 = (cs.splitOn '\n').map encode :=
  splitOn_encode_append (w := []) not_mem_nil cs

theorem trimBlanks_append (hu : ∀ c ∈ u, isBlank c) (hv : ∀ c ∈ v, isBlank c) :
    trimBlanks (u ++ cs ++ v) = trimBlanks cs := by
  have hr : ∀ c ∈ v.reverse, isBlank c := fun c hc => hv c (mem_reverse.1 hc)
  rw [trimBlanks, trimBlanks, append_assoc, dropWhile_append_of_pos hu, dropWhile_append]
  split
  · next h =>
    rw [isEmpty_iff.1 h, dropWhile_eq_nil_iff.2 hv]
  · rw [reverse_append, dropWhile_append_of_pos hr]

theorem exists_eq_append_trimBlanks (cs : List Char) : ∃ u v, (∀ c ∈ u, isBlank c) ∧
    (∀ c ∈ v, isBlank c) ∧ cs = u ++ trimBlanks cs ++ v := by
  refine ⟨cs.takeWhile isBlank, (cs.dropWhile isBlank).rtakeWhile isBlank,
    fun c hc => mem_takeWhile_imp hc, fun c hc => mem_rtakeWhile_imp hc, ?_⟩
  have hr : trimBlanks cs = (cs.dropWhile isBlank).rdropWhile isBlank := rfl
  rw [hr, append_assoc, rdropWhile_append_rtakeWhile, takeWhile_append_dropWhile]

theorem trimBlanks_trimBlanks (cs : List Char) : trimBlanks (trimBlanks cs) = trimBlanks cs := by
  obtain ⟨u, v, hu, hv, hc⟩ := exists_eq_append_trimBlanks cs
  calc
    trimBlanks (trimBlanks cs) = trimBlanks (u ++ trimBlanks cs ++ v) := (trimBlanks_append hu hv).symm
    _ = trimBlanks cs := by rw [← hc]

theorem trim_ofList_append {s : String} (hu : ∀ c ∈ u, isBlank c) (hv : ∀ c ∈ v, isBlank c)
    (hs : trim s = s) : trim (String.ofList (u ++ s.toList ++ v)) = s := by
  rw [trim, String.toList_ofList, trimBlanks_append hu hv]
  exact hs

/-- The text can stand on a line of its own as it is. -/
structure IsWord (s : String) : Prop where
  ne_empty : s ≠ ""
  trim_eq : trim s = s
  onLine : OnLine s

instance (s : String) : Decidable (IsWord s) :=
  decidable_of_iff (s ≠ "" ∧ trim s = s ∧ '\n' ∉ s.toList)
    ⟨fun h => ⟨h.1, h.2.1, h.2.2⟩, fun h => ⟨h.ne_empty, h.trim_eq, h.onLine⟩⟩

end Text

open Text (encode decode? trim isBlank IsWord OnLine)

def wordsOfLines (ls : List (List UInt8)) : List String :=
  (((ls.map decode?).takeWhile Option.isSome).reduceOption.map trim).filter (· ≠ "")

def wordsOfText (cs : List Char) : List String :=
  ((cs.splitOn '\n').map fun l => trim (String.ofList l)).filter (· ≠ "")

section Lines
variable {l : List UInt8} {ls : List (List UInt8)} {s : String}

theorem wordsOfLines_cons_of_none (h : decode? l = none) : wordsOfLines (l :: ls) = [] := by
  simp [wordsOfLines, h]

theorem wordsOfLines_cons_of_some (h : decode? l = some s) :
    wordsOfLines (l :: ls) = [trim s].filter (· ≠ "") ++ wordsOfLines ls := by
  rw [wordsOfLines, map_cons, h, takeWhile_cons_of_pos rfl, reduceOption_cons_of_some, map_cons,
    ← singleton_append, filter_append]
  rfl

theorem toList_go_answersAfter (k : Nat) (e : Enumeration (List UInt8)) :
    (WordList.words.go (WordList.answersAfter k e)).toList = wordsOfLines e.toList := by
  induction e generalizing k with
  | done => rfl
  | found l e ih =>
    rw [WordList.answersAfter, Enumeration.toList_found]
    split
    · next h =>
      rw [wordsOfLines_cons_of_none h]
      rfl
    · next s h =>
      rw [wordsOfLines_cons_of_some h]
      split
      · next hs =>
        rw [ih ()]
        simp [hs]
      · next hs =>
        rw [WordList.words.go, Enumeration.toList_found, ih ()]
        simp [hs]

theorem wordsOfLines_append_nil (ls : List (List UInt8)) :
    wordsOfLines (ls ++ [[]]) = wordsOfLines ls := by
  induction ls with
  | nil => rfl
  | cons l ls ih =>
    cases h : decode? l with
    | none => rw [cons_append, wordsOfLines_cons_of_none h, wordsOfLines_cons_of_none h]
    | some s => rw [cons_append, wordsOfLines_cons_of_some h, wordsOfLines_cons_of_some h, ih]

/-- A last piece without bytes is no line, all others are. -/
theorem splitOn_linesFrom (l data : List UInt8) (hl : 10 ∉ l.reverse) :
    (l.reverse ++ data).splitOn 10 = (linesFrom l data).toList ∨
      (l.reverse ++ data).splitOn 10 = (linesFrom l data).toList ++ [[]] := by
  induction data generalizing l with
  | nil =>
    rw [append_nil, splitOn_eq_singleton hl, linesFrom]
    split
    · next h =>
      subst h
      exact .inr rfl
    · exact .inl rfl
  | cons b data ih =>
    rw [linesFrom]
    split
    · next hb =>
      have hr := ih [] not_mem_nil
      rw [reverse_nil, nil_append] at hr
      rw [hb, splitOn_append_cons_self_of_not_mem hl, Enumeration.toList_found, cons_append]
      exact hr.imp (congrArg _) (congrArg _)
    · next hb =>
      have hc : 10 ∉ (b :: l).reverse := by simpa [Ne.symm hb] using hl
      have hr := ih (b :: l) hc
      rwa [reverse_cons, append_assoc, singleton_append] at hr

theorem splitOn_lines (data : List UInt8) :
    data.splitOn 10 = (linesFrom [] data).toList ∨
      data.splitOn 10 = (linesFrom [] data).toList ++ [[]] :=
  splitOn_linesFrom [] data not_mem_nil

end Lines

section Texts
variable {l cs : List Char} {s : String}

theorem wordsOfLines_map_encode (ls : List (List Char)) :
    wordsOfLines (ls.map encode) = (ls.map fun l => trim (String.ofList l)).filter (· ≠ "") := by
  induction ls with
  | nil => rfl
  | cons l ls ih =>
    rw [map_cons, wordsOfLines_cons_of_some (Text.decode?_encode l), ih]
    exact (filter_append [_] _).symm

theorem wordsOfText_of_notMem (h : '\n' ∉ l) :
    wordsOfText l = [trim (String.ofList l)].filter (· ≠ "") := by
  rw [wordsOfText, splitOn_eq_singleton h]
  rfl

theorem wordsOfText_append_lineFeed (h : '\n' ∉ l) (cs : List Char) :
    wordsOfText (l ++ '\n' :: cs) = wordsOfText l ++ wordsOfText cs := by
  rw [wordsOfText_of_notMem h, wordsOfText, splitOn_append_cons_self_of_not_mem h, map_cons,
    ← singleton_append, filter_append]
  rfl

def Blanks (u : List Char) : Prop := ∀ c ∈ u, isBlank c ∧ c ≠ '\n'

instance (u : List Char) : Decidable (Blanks u) := u.decidableBAll _

theorem Blanks.append {u v : List Char} (hu : Blanks u) (hv : Blanks v) : Blanks (u ++ v) :=
  forall_mem_append.2 ⟨hu, hv⟩

theorem Blanks.isBlank {u : List Char} (hu : Blanks u) : ∀ c ∈ u, isBlank c := fun c hc => (hu c hc).1

theorem Blanks.lineFeed_notMem {u : List Char} (hu : Blanks u) : '\n' ∉ u := fun h => (hu _ h).2 rfl

inductive Line : Option String → List Char → Prop
  | blank {u : List Char} (hu : Blanks u) : Line none u
  | word {s : String} {u v : List Char} (hu : Blanks u) (hv : Blanks v) :
    Line (some s) (u ++ s.toList ++ v)

def lineEnds : List (List Char) := [['\n'], ['\r', '\n']]

/-- A list of words in writing. The last line may go without an end. -/
inductive Written : List String → List Char → Prop
  | last {s? : Option String} {l : List Char} (h : Line s? l) : Written s?.toList l
  | line {s? : Option String} {l e cs : List Char} {ss : List String} (h : Line s? l)
    (he : e ∈ lineEnds) (hr : Written ss cs) : Written (s?.toList ++ ss) (l ++ e ++ cs)

variable {s? : Option String} {ss : List String}

theorem Line.append_blanks {v : List Char} (h : Line s? l) (hv : Blanks v) : Line s? (l ++ v) := by
  cases h with
  | blank hu => exact .blank (hu.append hv)
  | word hu hw =>
    rw [append_assoc]
    exact .word hu (hw.append hv)

theorem Line.lineFeed_notMem (h : Line s? l) (hs : ∀ s ∈ s?.toList, IsWord s) : '\n' ∉ l := by
  cases h with
  | blank hu => exact hu.lineFeed_notMem
  | @word s u v hu hv =>
    have hw : OnLine s := (hs s mem_cons_self).onLine
    simp only [mem_append, not_or]
    exact ⟨⟨hu.lineFeed_notMem, hw⟩, hv.lineFeed_notMem⟩

theorem Line.wordsOfText_eq (h : Line s? l) (hs : ∀ s ∈ s?.toList, IsWord s) :
    wordsOfText l = s?.toList := by
  rw [wordsOfText_of_notMem (h.lineFeed_notMem hs)]
  cases h with
  | blank hu =>
    have ht := Text.trim_ofList_append (s := "") hu.isBlank (v := []) nofun (by decide)
    have he : l ++ "".toList ++ [] = l := by simp
    rw [he] at ht
    rw [ht]
    rfl
  | @word s u v hu hv =>
    have hw : IsWord s := hs s mem_cons_self
    rw [Text.trim_ofList_append hu.isBlank hv.isBlank hw.trim_eq]
    simp [hw.ne_empty]

/-- A carriage return before the line feed counts as one more blank of the line. -/
theorem Line.wordsOfText_append {e : List Char} (h : Line s? l) (hs : ∀ s ∈ s?.toList, IsWord s)
    (he : e ∈ lineEnds) (cs : List Char) :
    wordsOfText (l ++ e ++ cs) = s?.toList ++ wordsOfText cs := by
  obtain ⟨v, hv, rfl⟩ : ∃ v, Blanks v ∧ e = v ++ ['\n'] := by
    simp only [lineEnds, mem_cons, not_mem_nil, or_false] at he
    cases he with
    | inl he => exact ⟨[], nofun, he⟩
    | inr he => exact ⟨['\r'], by decide, he⟩
  have hl := h.append_blanks hv
  rw [append_assoc, append_assoc, singleton_append, ← append_assoc,
    wordsOfText_append_lineFeed (hl.lineFeed_notMem hs), hl.wordsOfText_eq hs]

theorem Written.wordsOfText_eq (h : Written ss cs) (hs : ∀ s ∈ ss, IsWord s) :
    wordsOfText cs = ss := by
  induction h with
  | last h => exact h.wordsOfText_eq hs
  | line h he hr ih =>
    obtain ⟨hs, hss⟩ := forall_mem_append.1 hs
    rw [h.wordsOfText_append hs he, ih hss]

end Texts

namespace WordList
variable {path s : String} {data : List UInt8}

theorem fst_take (n : Nat) (w : WordList) : (w.take n).1 = w.words.toList.take n := by
  induction n generalizing w with
  | zero => rfl
  | succ n ih =>
    obtain ⟨path, answers?⟩ := w
    cases answers? with
    | none => rfl
    | some e =>
      cases e with
      | done => rfl
      | found a r =>
        cases a with
        | error k => rfl
        | ok s => exact congrArg (s :: ·) (ih ⟨path, some (r ())⟩)

theorem toList_words_ofBytes (path : String) (data : List UInt8) :
    (ofBytes path data).words.toList = wordsOfLines (data.splitOn 10) := by
  have hw : (ofBytes path data).words.toList = wordsOfLines (linesFrom [] data).toList :=
    toList_go_answersAfter 0 _
  -- A last piece without bytes is no line, and as a line it would have no word.
  cases splitOn_lines data with
  | inl h => rw [hw, h]
  | inr h => rw [hw, h, wordsOfLines_append_nil]

theorem toList_words_ofBytes_encode (path : String) (cs : List Char) :
    (ofBytes path (encode cs)).words.toList = wordsOfText cs := by
  rw [toList_words_ofBytes, Text.splitOn_encode, wordsOfLines_map_encode]
  rfl

theorem isWord_of_mem_words (h : s ∈ (ofBytes path data).words.toList) : IsWord s := by
  have hl : OnLine s := onLine_of_mem_words (c := .bytes data) h
  rw [toList_words_ofBytes] at h
  obtain ⟨hm, hs⟩ := mem_filter.1 h
  obtain ⟨t, -, rfl⟩ := mem_map.1 hm
  exact ⟨by simpa using hs, by simp [trim, Text.trimBlanks_trimBlanks], hl⟩

/-- Reading a word list cuts its bytes at line feeds, leaves out the first line that is no text with
all lines after it, and keeps what is not blank of the others. Of a text it keeps the words of its
lines, and lists of words are read as they are written. -/
theorem reads_lines (path : String) :
    (∀ data, (ofBytes path data).words.toList = wordsOfLines (data.splitOn 10) ∧
      (∀ n, ((ofBytes path data).take n).1 = (wordsOfLines (data.splitOn 10)).take n) ∧
      (∀ s, decode? data = some s → (ofBytes path data).words.toList = wordsOfText s.toList) ∧
      ∀ s ∈ (ofBytes path data).words.toList, IsWord s) ∧
    ∀ ss cs, Written ss cs → (∀ s ∈ ss, IsWord s) →
      (ofBytes path (encode cs)).words.toList = ss := by
  refine ⟨fun data => ⟨toList_words_ofBytes path data, ?_, ?_, fun s hs => isWord_of_mem_words hs⟩, ?_⟩
  · intro n
    rw [fst_take, toList_words_ofBytes]
  · intro s hs
    rw [Text.eq_encode_of_decode? hs, toList_words_ofBytes_encode]
  · intro ss cs h hs
    rw [toList_words_ofBytes_encode, h.wordsOfText_eq hs]

theorem reads_lines_home :
    Written ["home", "hone", "hope"] "home\r\n  hone \n\nhope".toList ∧
    (∀ s ∈ ["home", "hone", "hope"], IsWord s) ∧
    (ofBytes "words" (encode "home\r\n  hone \n\nhope".toList)).words.toList =
      ["home", "hone", "hope"] ∧
    decode? (encode "hone\n\n".toList) = some "hone\n\n" ∧
    (ofBytes "words" (encode "hone\n\n".toList)).words.toList = ["hone"] ∧
    "a" ∈ (ofBytes "words" [0x61, 10, 0xFF, 10, 0x62]).words.toList ∧ IsWord "a" := by
  have hw : Written ["home", "hone", "hope"] "home\r\n  hone \n\nhope".toList :=
    .line (e := ['\r', '\n']) (.word (s := "home") (u := []) (v := []) nofun nofun) (by decide) <|
    .line (e := ['\n']) (.word (s := "hone") (u := [' ', ' ']) (v := [' ']) (by decide) (by decide))
      (by decide) <|
    .line (e := ['\n']) (.blank (u := []) nofun) (by decide) <|
    .last (.word (s := "hope") (u := []) (v := []) nofun nofun)
  have hs : ∀ s ∈ ["home", "hone", "hope"], IsWord s := by decide
  have hd : decode? (encode "hone\n\n".toList) = some "hone\n\n" := Text.decode?_encode _
  have ha : "a" ∈ (ofBytes "words" [0x61, 10, 0xFF, 10, 0x62]).words.toList := by decide +kernel
  have hone' : (ofBytes "words" (encode "hone\n\n".toList)).words.toList = ["hone"] :=
    (((reads_lines "words").1 _).2.2.1 _ hd).trans (by decide)
  exact ⟨hw, hs, (reads_lines "words").2 _ _ hw hs, hd, hone', ha,
    ((reads_lines "words").1 _).2.2.2 _ ha⟩

end WordList
end Initialism
