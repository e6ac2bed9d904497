import Mathlib.Data.List.Forall2
import Initialism.Proofs.Spelling.Turns
import Initialism.Proofs.Text.Images

/-! The spellings of a word are those of the product of its units: one option for each unit. They
come in the order of the options, and one that can be put together in more ways comes where it is met
first. -/
namespace Initialism
open List

namespace Text

theorem lower_ne_nil (c : Char) : lower c ≠ [] := by
  rw [lower]
  split
  · exact cons_ne_nil _ _
  · obtain ⟨ns, hns, hi⟩ | ⟨r, -, -, -, hi⟩ | hi := mapped_cases lowerLong lowerRows c
    · have hlen : 1 < ns.length := length_of_mem_lowerLong _ hns
      rw [hi]
      exact ne_nil_of_length_pos (by rw [length_map]; omega)
    · rw [hi]
      exact cons_ne_nil _ _
    · rw [hi]
      exact cons_ne_nil _ _

theorem lowerAfter_eq_nil_iff {before cs : List Char} : lowerAfter before cs = [] ↔ cs = [] := by
  cases cs with
  | nil => simp [lowerAfter]
  | cons c cs =>
    rw [lowerAfter]
    split
    · simp
    · simp [lower_ne_nil]

theorem trimBlanks_eq_nil_iff {cs : List Char} : trimBlanks cs = [] ↔ ∀ c ∈ cs, isBlank c := by
  rw [trimBlanks, reverse_eq_nil_iff, dropWhile_eq_nil_iff]
  constructor
  · intro h
    by_contra hn
    rw [← dropWhile_eq_nil_iff] at hn
    have hb := h _ (mem_reverse.2 (head_mem hn))
    rw [head_dropWhile_not isBlank hn] at hb
    cases hb
  · intro h c hc
    exact h c ((dropWhile_suffix isBlank).subset (mem_reverse.1 hc))

end Text

namespace Spelling

/-- A word is cut into these units from the left: at each letter a unit of two letters if the table
has one there, otherwise the letter alone. -/
inductive Cut : List Char → List (List Char) → Prop
  | nil : Cut [] []
  | pair {a b : Char} {cs : List Char} {us : List (List Char)} :
      [a, b] ∈ table.map Prod.fst → Cut cs us → Cut (a :: b :: cs) ([a, b] :: us)
  | single {a : Char} {cs : List Char} {us : List (List Char)} :
      (∀ b ∈ cs.head?, [a, b] ∉ table.map Prod.fst) → Cut cs us → Cut (a :: cs) ([a] :: us)

variable {cs u p : List Char} {us ps : List (List Char)} {ws : List Wheel} {c : List Nat}

theorem isUnit_iff : isUnit u ↔ u ∈ table.map Prod.fst := by
  rw [isUnit, lookup_isSome_iff, mem_map]
  exact exists_congr fun e => and_congr_right fun _ => beq_iff_eq.trans eq_comm

theorem cut_units (cs : List Char) : Cut cs (units cs) := by
  fun_induction units cs with
  | case1 => exact .nil
  | case2 a => exact .single (by simp) .nil
  | case3 a b r hu ih => exact .pair (isUnit_iff.1 hu) ih
  | case4 a b r hu ih =>
    refine .single (fun d hd => ?_) ih
    obtain rfl := Option.some.inj hd
    exact fun h => hu (isUnit_iff.2 h)

theorem Cut.flatten (h : Cut cs us) : us.flatten = cs := by
  induction h with
  | nil => rfl
  | pair _ _ ih => rw [flatten_cons, ih, cons_append, singleton_append]
  | single _ _ ih => rw [flatten_cons, ih, singleton_append]

theorem Cut.eq_nil_iff (h : Cut cs us) : us = [] ↔ cs = [] := by
  cases h <;> simp

theorem lookup_of_mem_table : ∀ e ∈ table, table.lookup e.1 = some e.2 := by decide

theorem mem_options : p ∈ options u ↔ p = u ∨ ∃ os, (u, os) ∈ table ∧ p ∈ os := by
  rw [options, mem_cons]
  refine or_congr_right ⟨fun h => ?_, fun ⟨os, hos, hp⟩ => ?_⟩
  · cases ht : table.lookup u with
    | none => simp [ht] at h
    | some os =>
      obtain ⟨l, l', he, -⟩ := lookup_eq_some_iff.1 ht
      exact ⟨os, by simp [he], by simpa [ht] using h⟩
  · rw [lookup_of_mem_table (u, os) hos]
    exact hp

def Choice (us : List (List Char)) (c : List Nat) : Prop :=
  Forall₂ (fun i u => i < (options u).length) c us

def chosen (us : List (List Char)) (c : List Nat) : List (List Char) :=
  zipWith (fun u i => (options u).getD i []) us c

theorem exists_choice_iff :
    (∃ c, Choice us c ∧ chosen us c = ps) ↔ Forall₂ (fun p u => p ∈ options u) ps us := by
  constructor
  · rintro ⟨c, hc, rfl⟩
    induction hc with
    | nil => exact .nil
    | @cons i u c us hi _ ih =>
      rw [chosen, zipWith_cons_cons, getD_eq_getElem _ _ hi]
      exact .cons (getElem_mem hi) ih
  · intro h
    induction h with
    | nil => exact ⟨[], .nil, rfl⟩
    | @cons p u ps us hp _ ih =>
      obtain ⟨c, hc, rfl⟩ := ih
      obtain ⟨i, hi, rfl⟩ := getElem_of_mem hp
      refine ⟨i :: c, .cons hi hc, ?_⟩
      rw [chosen, zipWith_cons_cons, getD_eq_getElem _ _ hi, chosen]

theorem flatMap_text (ho : ws.map Wheel.options = us.map options) :
    ws.flatMap Wheel.text = (chosen us (numbers ws)).flatten := by
  induction us generalizing ws with
  | nil =>
    rw [map_eq_nil_iff.1 ho]
    rfl
  | cons u us ih =>
    obtain ⟨⟨os, i⟩, ws, rfl, hw, hws⟩ := map_eq_cons_iff.1 ho
    obtain rfl : os = options u := hw
    rw [flatMap_cons, numbers_cons, chosen, zipWith_cons_cons, flatten_cons, ih hws,
      getD_eq_getElem _ _ i.isLt]
    rfl

theorem choice_iff : Choice us c ↔ ∃ ws : List Wheel,
    ws.map Wheel.options = us.map options ∧ numbers ws = c := by
  constructor
  · intro h
    induction h with
    | nil => exact ⟨[], rfl, rfl⟩
    | @cons i u c us hi _ ih =>
      obtain ⟨ws, ho, rfl⟩ := ih
      exact ⟨⟨options u, ⟨i, hi⟩⟩ :: ws, congrArg (options u :: ·) ho, rfl⟩
  · rintro ⟨ws, ho, rfl⟩
    induction us generalizing ws with
    | nil =>
      rw [map_eq_nil_iff.1 ho]
      exact .nil
    | cons u us ih =>
      obtain ⟨w, ws, rfl, hw, ho⟩ := map_eq_cons_iff.1 ho
      exact .cons (hw ▸ w.choice.isLt) (ih ws ho)

theorem map_options_ofUnit (us : List (List Char)) :
    (us.map Wheel.ofUnit).map Wheel.options = us.map options := map_map

theorem mem_numbers_turns :
    c ∈ (turns (us.map .ofUnit)).toList.map numbers ↔ Choice us c := by
  have hf : (us.map Wheel.ofUnit).map Wheel.first = us.map Wheel.ofUnit := map_map
  rw [mem_map, choice_iff, ← map_options_ofUnit]
  refine exists_congr fun ws => and_congr_left fun _ => mem_turns.trans (and_iff_left_of_imp ?_)
  intro hws
  rw [← hf]
  exact not_numbers_lt_first hws

/-- What is left is not in `seen`, and of equal texts it is the first. -/
theorem toList_distinct (seen : Std.TreeSet String) (e : Enumeration String) :
    (distinct seen e).toList = (e.toList.filter fun t => !seen.contains t).eraseDups := by
  induction e generalizing seen with
  | done => rfl
  | found s e ih =>
    rw [distinct, Enumeration.toList_found]
    split
    · next h => rw [ih, filter_cons_of_neg (by simp [h])]
    · next h =>
      rw [Enumeration.toList_found, ih, filter_cons_of_pos (by simp [h]), eraseDups_cons,
        filter_filter]
      refine congrArg (s :: eraseDups ·) (filter_congr fun t _ => ?_)
      rw [Bool.eq_iff_iff]
      simp [@eq_comm _ t s]

theorem mem_distinct {seen : Std.TreeSet String} {e : Enumeration String} {t : String} :
    t ∈ (distinct seen e).toList ↔ t ∈ e.toList ∧ t ∉ seen := by
  rw [toList_distinct, mem_eraseDups, mem_filter, Bool.not_eq_true', Bool.eq_false_iff]
  rfl

theorem nodup_distinct (seen : Std.TreeSet String) (e : Enumeration String) :
    (distinct seen e).toList.Nodup := by
  induction e generalizing seen with
  | done => exact nodup_nil
  | found s e ih =>
    rw [distinct]
    split
    · exact ih () seen
    · have hs : s ∉ (distinct (seen.insert s) (e ())).toList := by simp [mem_distinct]
      exact nodup_cons.2 ⟨hs, ih () _⟩

def spelled (us : List (List Char)) (c : List Nat) : String := String.ofList (chosen us c).flatten

def unitsOf (word : String) : List (List Char) := units (Text.lowerText (Text.trim word)).toList

theorem cut_unitsOf (word : String) :
    Cut (Text.lowerText (Text.trim word)).toList (unitsOf word) := cut_units _

theorem unitsOf_eq_nil_iff {word : String} :
    unitsOf word = [] ↔ ∀ c ∈ word.toList, Text.isBlank c := by
  rw [(cut_unitsOf word).eq_nil_iff, Text.lowerText, String.toList_ofList,
    Text.lowerAfter_eq_nil_iff, Text.trim, String.toList_ofList, Text.trimBlanks_eq_nil_iff]

theorem toList_ofWord (word : String) :
    (ofWord word).toList = if unitsOf word = [] then [] else
      (((turns ((unitsOf word).map .ofUnit)).toList.map numbers).map
        (spelled (unitsOf word))).eraseDups := by
  have ht : ∀ ws ∈ (turns ((unitsOf word).map .ofUnit)).toList,
      String.ofList (ws.flatMap Wheel.text) = spelled (unitsOf word) (numbers ws) := by
    intro ws hws
    have ho := (mem_turns.1 hws).1.trans (map_options_ofUnit _)
    rw [flatMap_text ho, spelled]
  rw [ofWord, ← unitsOf]
  split
  · next hn =>
    rw [if_pos hn]
    rfl
  · next hn =>
    rw [if_neg hn, toList_distinct, Enumeration.toList_map, map_congr_left ht, map_map]
    simp only [Std.TreeSet.contains_emptyc, Bool.not_false, filter_true]
    rfl

theorem nodup_ofWord (word : String) : (ofWord word).toList.Nodup := by
  rw [ofWord]
  split
  · exact nodup_nil
  · exact nodup_distinct _ _

theorem head?_ofWord (word : String) : (ofWord word).toList.head? =
    if unitsOf word = [] then none else some (Text.lowerText (Text.trim word)) := by
  rw [toList_ofWord]
  split
  · rfl
  · have hs : ((unitsOf word).map Wheel.ofUnit).flatMap Wheel.text =
        (Text.lowerText (Text.trim word)).toList := by
      rw [flatMap_map, ← (cut_unitsOf word).flatten, flatten_eq_flatMap]
      rfl
    rw [turns, Enumeration.toList_found, map_cons, map_cons, eraseDups_cons, head?_cons, spelled,
      ← flatMap_text (map_options_ofUnit _), hs, String.ofList_toList]

theorem mem_ofWord {word t : String} : t ∈ (ofWord word).toList ↔
    unitsOf word ≠ [] ∧ ∃ ps : List (List Char), t = String.ofList ps.flatten ∧
      Forall₂ (fun p u => p ∈ options u) ps (unitsOf word) := by
  rw [toList_ofWord]
  split
  · next hn => simp [hn]
  · next hn =>
    rw [mem_eraseDups, mem_map, and_iff_right hn]
    constructor
    · rintro ⟨c, hc, rfl⟩
      exact ⟨_, rfl, exists_choice_iff.1 ⟨c, mem_numbers_turns.1 hc, rfl⟩⟩
    · rintro ⟨ps, rfl, hps⟩
      obtain ⟨c, hc, rfl⟩ := exists_choice_iff.2 hps
      exact ⟨c, mem_numbers_turns.2 hc, rfl⟩

/-- Let `us` be the units of the word, cut free of blanks and in lower case, and `cs` all choices for
them in the order of their numbers. The spellings of the word are those that the choices stand for,
each where it is met first, and a blank word has none. They are what one option for each unit gives,
the unit itself or another way in the table, and the text that was cut is the first. -/
theorem ofWord_enumerates (word : String) : ∃ (us : List (List Char)) (cs : List (List Nat)),
    Cut (Text.lowerText (Text.trim word)).toList us ∧
    cs.Pairwise (· < ·) ∧ (∀ c, c ∈ cs ↔ Choice us c) ∧
    (ofWord word).toList = (if us = [] then [] else (cs.map (spelled us)).eraseDups) ∧
    (ofWord word).toList.Nodup ∧
    (us = [] ↔ ∀ c ∈ word.toList, Text.isBlank c) ∧
    (ofWord word).toList.head? =
      (if us = [] then none else some (Text.lowerText (Text.trim word))) ∧
    ∀ t, t ∈ (ofWord word).toList ↔ us ≠ [] ∧ ∃ ps : List (List Char),
      t = String.ofList ps.flatten ∧
      Forall₂ (fun p u => p = u ∨ ∃ os, (u, os) ∈ table ∧ p ∈ os) ps us := by
  refine ⟨unitsOf word, (turns ((unitsOf word).map .ofUnit)).toList.map numbers, cut_unitsOf word,
    pairwise_numbers_turns _, fun c => mem_numbers_turns, toList_ofWord word, nodup_ofWord word,
    unitsOf_eq_nil_iff, head?_ofWord word, fun t => ?_⟩
  simp only [← mem_options]
  exact mem_ofWord

example : (ofWord "ii").toList = ["ii", "iee", "iii", "iy", "eei", "eeee", "eeii", "eey", "iiee",
    "iiii", "iiy", "yi", "yee", "yii", "yy"] := by decide +kernel

end Spelling
end Initialism
