import Initialism.CommandLine.Session
import Initialism.Proofs.Pattern.RoundTrip
import Initialism.Proofs.Run.Words
import Initialism.Proofs.Text.Json
import Initialism.Proofs.Text.LineFeeds

/-! What the command prints. No line feed comes into an acronym, neither from a word of the list nor
from the pattern, so each has a line of its own, in either format. From a line of JSON it can be
read back. -/
namespace Initialism
open List
open Text (OnLine)

namespace Acronym
variable {a : Acronym}

def OnLine (a : Acronym) : Prop := Text.OnLine a.name ∧ ∀ t ∈ a.items, Text.OnLine t

theorem OnLine.text (h : a.OnLine) : Text.OnLine a.text := by
  have hi : '\n' ∉ [' '].intercalate (a.items.map String.toList) := by
    refine Text.lineFeed_notMem_intercalate (by decide) fun l hl => ?_
    obtain ⟨t, ht, rfl⟩ := mem_map.1 hl
    exact h.2 t ht
  have hn : '\n' ∉ a.name.toList := h.1
  simpa [Text.OnLine, Acronym.text, expansion, hn] using hi

theorem onLine_json (a : Acronym) : Text.OnLine a.json := by
  have hi : '\n' ∉ [','].intercalate ((a.items.map Text.jsonString).map String.toList) := by
    refine Text.lineFeed_notMem_intercalate (by decide) fun l hl => ?_
    obtain ⟨s, hs, rfl⟩ := mem_map.1 hl
    obtain ⟨t, -, rfl⟩ := mem_map.1 hs
    exact Text.onLine_jsonString t
  have hn : '\n' ∉ (Text.jsonString a.name).toList := Text.onLine_jsonString a.name
  simpa [Text.OnLine, json, hn] using hi

end Acronym

namespace Pattern
variable {p : Pattern} {i : Item} {c : Char} {w : String} {a : Acronym}

def HasLineWords (p : Pattern) : Prop := ∀ v, literal v ∈ p.nodes → OnLine v

theorem hasLineWords_of_isWellFormed (h : p.isWellFormed) : p.HasLineWords := by
  intro v hv hn
  obtain ⟨-, hw⟩ : v ≠ "" ∧ ∀ c ∈ v.toList, c.isAlpha := by
    simpa [isWellFormed] using isWellFormed_of_mem_nodes h hv
  exact absurd (hw '\n' hn) (by decide)

theorem Contributes.onLine (hp : p.HasLineWords) (h : p.Contributes i c) (hc : c ≠ '\n') :
    OnLine i.text ∧ ∀ d, i.initial? = some d → d ≠ '\n' := by
  obtain ⟨hl, ht⟩ := h
  cases i with
  | word v =>
    have hv : OnLine v := hp v hl
    refine ⟨hv, ?_⟩
    rintro d hd rfl
    exact hv (mem_of_mem_head? hd)
  | letter d =>
    obtain rfl : d = c := ht
    refine ⟨by simpa [OnLine, Item.text] using hc.symm, ?_⟩
    intro e he
    obtain rfl : d = e := Option.some.inj he
    exact hc

theorem onLine_of_forall₂_contributes {is : List Item} {cs : List Char} (hp : p.HasLineWords)
    (h : Forall₂ p.Contributes is cs) (hcs : '\n' ∉ cs) :
    ∀ i ∈ is, OnLine i.text ∧ ∀ d, i.initial? = some d → d ≠ '\n' := by
  induction h with
  | nil => simp
  | cons hi _ ih =>
    obtain ⟨hc, hcs⟩ := not_or.1 (mt mem_cons.2 hcs)
    exact forall_mem_cons.2 ⟨hi.onLine hp (Ne.symm hc), ih hcs⟩

theorem onLine_of_mem_acronymsOf (hp : p.HasLineWords) (hw : OnLine w) (h : a ∈ p.acronymsOf w) :
    a.OnLine := by
  obtain ⟨m, hm, rfl⟩ := mem_map.1 h
  have hf := (spells_of_mem_spellings hm).forall₂_contributes
  rw [Letters.ofString, Letters.toList_ofList] at hf
  have hi := onLine_of_forall₂_contributes hp hf hw
  constructor
  · have hd : '\n' ∉ m.items.filterMap Item.initial? := by
      intro hn
      obtain ⟨i, him, hin⟩ := mem_filterMap.1 hn
      exact (hi i him).2 '\n' hin rfl
    simpa [OnLine, Match.acronym, Match.name] using Text.lineFeed_notMem_flatMap_upper hd
  · intro t ht
    obtain ⟨i, him, rfl⟩ := mem_map.1 ht
    exact (hi i him).1

end Pattern

namespace CommandLine
variable {i : Invocation} {p : Pattern} {s : Settings} {w : WordList}

theorem isWellFormed_of_patterns {ss : List String} {ps : List Pattern}
    (h : Invocation.patterns ss = .ok ps) : ∀ p ∈ ps, p.isWellFormed := by
  induction ss generalizing ps with
  | nil =>
    obtain rfl := Except.ok.inj h
    simp
  | cons t ss ih =>
    rw [Invocation.patterns] at h
    split at h
    · cases h
    · next p hp =>
      cases hps : Invocation.patterns ss with
      | error e =>
        rw [hps] at h
        cases h
      | ok qs =>
        rw [hps] at h
        obtain rfl := Except.ok.inj h
        exact forall_mem_cons.2 ⟨Pattern.isWellFormed_of_parse hp, ih hps⟩

theorem hasLineWords_combined {ps : List Pattern} (h : ∀ p ∈ ps, p.HasLineWords) :
    (Invocation.combined ps).HasLineWords := by
  unfold Invocation.combined
  split
  · exact h _ mem_cons_self
  · intro v hv
    rw [Pattern.nodes, Pattern.nodesOf_eq] at hv
    cases mem_cons.1 hv with
    | inl hv => cases hv
    | inr hv =>
      obtain ⟨p, hp, hv⟩ := mem_flatMap.1 hv
      exact h p hp v hv

theorem hasLineWords_of_pattern (h : i.pattern = .ok p) : p.HasLineWords := by
  rw [Invocation.pattern] at h
  cases hps : Invocation.patterns i.constraints with
  | error e =>
    rw [hps] at h
    cases h
  | ok ps =>
    rw [hps] at h
    obtain rfl := Except.ok.inj h
    refine hasLineWords_combined fun p hp => ?_
    exact Pattern.hasLineWords_of_isWellFormed (isWellFormed_of_patterns hps p hp)

theorem onLine_of_mem_candidates {path : String} {c : Contents} {t : String}
    (h : t ∈ (candidates s (.ofContents path c)).toList) : OnLine t := by
  rw [candidates] at h
  split at h
  · rw [Enumeration.toList_flatMap] at h
    obtain ⟨v, hv, ht⟩ := mem_flatMap.1 h
    exact Spelling.onLine_of_mem_ofWord (WordList.onLine_of_mem_words hv) ht
  · exact WordList.onLine_of_mem_words h

theorem toList_acronyms (s : Settings) (p : Pattern) (w : WordList) :
    (acronyms s p w).toList = p.gives s.minLength [] (candidates s w).toList := by
  rw [acronyms, Run.toList_acronyms ⟨rfl, rfl⟩, Run.owed_ofAnswers, Enumeration.toList_map,
    Pattern.upToPause_eager]

theorem toList_stdout_report (i : Invocation) (s : Settings) (p : Pattern) (c : Contents) :
    (i.report s p (.ok c)).stdout.toList = ((acronyms s p (.ofContents s.path c)).toList.map
      fun a => (i.line a).toList).flatMap (· ++ ['\n']) := by
  simp [Invocation.report, Outcome.stdout, String.toList_join, flatMap_map]

/-- The text is one line for each of the acronyms, in their order, and nothing else. -/
structure Invocation.Prints (i : Invocation) (as : List Acronym) (text : String) : Prop where
  lines : text.toList.splitOn '\n' = as.map (fun a => (i.line a).toList) ++ [[]]
  onLine : ∀ a ∈ as, OnLine (i.line a)
  decodes : i.format? = some .json → ∀ a ∈ as, Json.decode? (i.line a) = some
    (.object [("name", .string a.name), ("items", .array (a.items.map .string))])

/-- Whatever the word list and the settings are, the command prints the acronyms line by line. -/
theorem prints_acronyms (h : i.pattern = .ok p) (s : Settings) (c : Contents) :
    (acronyms s p (.ofContents s.path c)).toList =
      p.gives s.minLength [] (candidates s (.ofContents s.path c)).toList ∧
    i.Prints (acronyms s p (.ofContents s.path c)).toList (i.report s p (.ok c)).stdout := by
  have hg := toList_acronyms s p (.ofContents s.path c)
  have ha : ∀ a ∈ (acronyms s p (.ofContents s.path c)).toList, a.OnLine := by
    intro a ha
    rw [hg] at ha
    obtain ⟨t, ht, ha⟩ := Pattern.exists_mem_acronymsOf_of_mem_gives ha
    exact Pattern.onLine_of_mem_acronymsOf (hasLineWords_of_pattern h) (onLine_of_mem_candidates ht)
      ha
  have hl : ∀ a ∈ (acronyms s p (.ofContents s.path c)).toList, OnLine (i.line a) := by
    intro a hm
    rw [Invocation.line]
    split
    · exact a.onLine_json
    · exact (ha a hm).text
  refine ⟨hg, ?_, hl, ?_⟩
  · rw [toList_stdout_report]
    apply Text.splitOn_flatMap_lineFeed
    intro l hm
    obtain ⟨a, has, rfl⟩ := mem_map.1 hm
    exact hl a has
  · intro hf a _
    rw [Invocation.line, hf]
    exact a.decode?_json

theorem prints_acronyms_quick :
    let i : Invocation := ⟨["<Quick .>"], false, none, none, none, some .json⟩
    let root := Pattern.group .sequence [.literal "Quick", .wildcard]
    let c : Contents := .bytes "q\"\r\n q\nQ\\".toUTF8.toList
    let s : Settings := ⟨2, true, "words"⟩
    i.pattern = .ok root ∧
      (acronyms s root (.ofContents s.path c)).toList =
        [⟨"Q\"", ["Quick", "\""]⟩, ⟨"Q\\", ["Quick", "\\"]⟩] ∧
      i.Prints (acronyms s root (.ofContents s.path c)).toList (i.report s root (.ok c)).stdout := by
  intro i root c s
  have hp : Pattern.parse "<Quick .>" = .ok root := by
    rw [Pattern.parse_eq_outcome]
    rfl
  have hi : i.pattern = .ok root := by
    simp [i, Invocation.pattern, Invocation.patterns, hp, Except.map, Invocation.combined]
  have ha := prints_acronyms hi s c
  refine ⟨hi, ?_, ha.2⟩
  rw [ha.1]
  decide +kernel

end CommandLine
end Initialism
