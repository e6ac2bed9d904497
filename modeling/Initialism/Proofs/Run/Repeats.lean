import Initialism.Proofs.Match.Recased
import Initialism.Proofs.Pattern.RoundTrip
import Initialism.Proofs.Run.Words
import Initialism.Text.Utf8

/-! Words that come again. In ASCII all acronyms of a word are named as the word is spelled in upper
case, and words with the same spelling have acronyms together or not at all. So the guard passes
over a word if one with the same spelling has given acronyms, and else there is nothing to pass
over: the run gives what it gives without the repeats. -/
namespace Initialism
open List

def Text.sameSpelling (s t : String) : Bool := upperText s == upperText t

namespace Pattern

def HasAsciiInitials (p : Pattern) : Prop := ∀ d ∈ p.initials, Text.isAscii d

theorem hasAsciiInitials_of_isWellFormed {p : Pattern} (h : p.isWellFormed) :
    p.HasAsciiInitials := by
  intro d hd
  obtain ⟨q, hq, hd⟩ := mem_filterMap.1 hd
  cases q with
  | literal w =>
    obtain ⟨-, hw⟩ : w ≠ "" ∧ ∀ c ∈ w.toList, c.isAlpha := by
      simpa [isWellFormed] using isWellFormed_of_mem_nodes h hq
    exact decide_eq_true (Text.toNat_lt_of_isAlpha (hw d (mem_of_mem_head? hd)))
  | wildcard => cases hd
  | optional q => cases hd
  | group g qs => cases hd

variable {p : Pattern} {m k : Nat} {g ws : List String} {v w x : String} {a : Acronym}

theorem name_of_mem_acronymsOf (hp : p.HasAsciiInitials) (hw : ∀ c ∈ w.toList, Text.isAscii c)
    (h : a ∈ p.acronymsOf w) : a.name = Text.upperText w := by
  obtain ⟨ds, hds, ha⟩ := exists_begins_of_mem_acronymsOf h
  have hd : ∀ d ∈ ds, Text.isAscii d := forall_of_forall₂_begins hds hw hp
  have hs : Text.SameLetters w.toList ds := hds.imp fun _ _ hb => hb.1
  rw [ha, Text.upperText, (Text.flatMap_upper_eq_iff hw hd).2 hs]

theorem length_acronymsOf_eq (p : Pattern) (h : Text.SameLetters v.toList w.toList) :
    (p.acronymsOf v).length = (p.acronymsOf w).length := by
  rw [acronymsOf, acronymsOf, length_map, length_map]
  refine p.length_spellings_eq ?_
  simpa [Letters.ofString] using h

def Answers (p : Pattern) (m : Nat) (w : String) : Prop := m ≤ w.length ∧ p.acronymsOf w ≠ []

theorem answers_of_sameLetters (h : Text.SameLetters v.toList w.toList) (hv : p.Answers m v) :
    p.Answers m w := by
  obtain ⟨hm, hn⟩ := hv
  rw [← length_pos_iff, p.length_acronymsOf_eq h, length_pos_iff] at hn
  rw [← String.length_toList, h.length_eq, String.length_toList] at hm
  exact ⟨hm, hn⟩

/-- All acronyms of the words are named as the words are spelled. -/
def NamesSpelled (p : Pattern) (ws : List String) : Prop :=
  ∀ w ∈ ws, ∀ a ∈ p.acronymsOf w, a.name = Text.upperText w

theorem mem_names_given (hw : ∀ a ∈ p.acronymsOf w, a.name = Text.upperText w) :
    x ∈ g ++ (p.given m g w).map Acronym.name ↔ x ∈ g ∨ Text.upperText w = x ∧ p.Answers m w := by
  rw [mem_append, mem_map]
  constructor
  · intro h
    cases h with
    | inl h => exact .inl h
    | inr h =>
      obtain ⟨a, ha, rfl⟩ := h
      obtain ⟨-, hm, ha⟩ := mem_given.1 ha
      exact .inr ⟨(hw a ha).symm, hm, ne_nil_of_mem ha⟩
  · intro h
    cases h with
    | inl h => exact .inl h
    | inr h =>
      obtain ⟨rfl, hm, hn⟩ := h
      obtain ⟨a, ha⟩ := exists_mem_of_ne_nil _ hn
      by_cases hg : Text.upperText w ∈ g
      · exact .inl hg
      · exact .inr ⟨a, mem_given.2 ⟨hg, hm, ha⟩, hw a ha⟩

theorem mem_names_gives (hn : p.NamesSpelled ws) :
    x ∈ g ++ (p.gives m g ws).map Acronym.name ↔
      x ∈ g ∨ ∃ w ∈ ws, Text.upperText w = x ∧ p.Answers m w := by
  induction ws generalizing g with
  | nil => simp [gives]
  | cons w ws ih =>
    obtain ⟨hw, hws⟩ := forall_mem_cons.1 hn
    rw [gives, map_append, ← append_assoc, ih hws, mem_names_given hw, or_assoc]
    simp only [mem_cons, exists_eq_or_imp]

/-- Past a word, no other with the same letters has anything to give. -/
theorem given_eq_nil_of_sameLetters {g' : List String}
    (hw : ∀ a ∈ p.acronymsOf w, a.name = Text.upperText w)
    (h : Text.SameLetters v.toList w.toList) (hx : Text.upperText v = Text.upperText w)
    (hg : g ++ (p.given m g w).map Acronym.name ⊆ g') : p.given m g' v = [] := by
  by_contra hne
  obtain ⟨a, ha⟩ := exists_mem_of_ne_nil _ hne
  obtain ⟨hv, hm, ha⟩ := mem_given.1 ha
  have hans : p.Answers m w := answers_of_sameLetters h ⟨hm, ne_nil_of_mem ha⟩
  rw [hx] at hv
  exact hv (hg ((mem_names_given hw).2 (.inr ⟨rfl, hans⟩)))

theorem gives_filter_of_given_nil {q : String → Bool}
    (h : ∀ v ∈ ws, q v = false → ∀ g', g ⊆ g' → p.given m g' v = []) :
    p.gives m g (ws.filter q) = p.gives m g ws := by
  induction ws generalizing g with
  | nil => rfl
  | cons w ws ih =>
    obtain ⟨hw, hws⟩ := forall_mem_cons.1 h
    cases hq : q w with
    | false =>
      have hg : p.given m g w = [] := hw hq g (Subset.refl g)
      rw [filter_cons_of_neg (by simp [hq]), gives, hg, ih hws]
      simp
    | true =>
      rw [filter_cons_of_pos hq, gives, gives, ih]
      exact fun v hv hq g' hg => hws v hv hq g' fun _ hx => hg (mem_append_left _ hx)

theorem gives_eraseDupsBy (hp : p.HasAsciiInitials) (g : List String) (ws : List String)
    (hws : ∀ w ∈ ws, ∀ c ∈ w.toList, Text.isAscii c) :
    p.gives m g (ws.eraseDupsBy Text.sameSpelling) = p.gives m g ws := by
  match ws with
  | [] => rfl
  | w :: ws =>
    obtain ⟨hw, hws⟩ := forall_mem_cons.1 hws
    have hrest := gives_eraseDupsBy hp (g ++ (p.given m g w).map Acronym.name)
      (ws.filter fun v => Text.sameSpelling v w = false) fun v hv => hws v (mem_filter.1 hv).1
    rw [eraseDupsBy_cons, gives, gives, hrest, gives_filter_of_given_nil]
    -- What is left out is spelled like `w`. So `w` saw to it that this name is in the guard, or
    -- neither of them has anything to give.
    intro v hv hq g' hg
    have hx : Text.upperText v = Text.upperText w := by simpa [Text.sameSpelling] using hq
    have hs := (Text.upperText_eq_iff (hws v hv) hw).1 hx
    exact given_eq_nil_of_sameLetters (fun a => name_of_mem_acronymsOf hp hw) hs hx hg
termination_by ws.length
decreasing_by exact Nat.lt_succ_of_le (length_filter_le _ _)

theorem name_notMem_of_mem_eager (hn : p.NamesSpelled ws) {o : Observation}
    (h : o ∈ p.eager m g k (ws.map some)) (ha : o.acronym? = some a) : a.name ∉ g := by
  induction ws generalizing g k with
  | nil => cases h
  | cons w ws ih =>
    obtain ⟨hw, hws⟩ := forall_mem_cons.1 hn
    rw [map_cons, eager, mem_append] at h
    cases h with
    | inl h =>
      obtain ⟨b, hb, rfl⟩ := mem_map.1 h
      obtain rfl := Option.some.inj ha
      obtain ⟨hg, -, hb⟩ := mem_given.1 hb
      rwa [hw b hb]
    | inr h => exact fun hx => ih hws h (mem_append_left _ hx)

end Pattern

/-- The two are acronyms of one candidate, or their names differ. -/
def Observation.Apart (o o' : Observation) : Prop :=
  ∀ a a', o.acronym? = some a → o'.acronym? = some a' → o.pulled ≠ o'.pulled → a.name ≠ a'.name

instance : Std.Symm Observation.Apart :=
  ⟨fun _ _ h a a' ha ha' hne => (h a' a ha' ha hne.symm).symm⟩

namespace Pattern
variable {p : Pattern} {m k : Nat} {g ws : List String}

theorem pairwise_apart_eager (hn : p.NamesSpelled ws) :
    (p.eager m g k (ws.map some)).Pairwise Observation.Apart := by
  induction ws generalizing g k with
  | nil => exact .nil
  | cons w ws ih =>
    obtain ⟨-, hws⟩ := forall_mem_cons.1 hn
    rw [map_cons, eager, pairwise_append]
    refine ⟨?_, ih hws, ?_⟩
    · -- Acronyms of one word are seen with the same number of candidates.
      refine pairwise_map.2 (pairwise_of_forall fun b b' => ?_)
      intro a a' _ _ hne
      exact absurd rfl hne
    · intro o ho o' ho' a a' ha ha' _ hname
      obtain ⟨b, hb, rfl⟩ := mem_map.1 ho
      obtain rfl := Option.some.inj ha
      have hnew := name_notMem_of_mem_eager hws ho' ha'
      exact hnew (mem_append_right _ (hname ▸ mem_map_of_mem hb))

theorem apart_of_mem_eager (hn : p.NamesSpelled ws) {o o' : Observation}
    (ho : o ∈ p.eager m g k (ws.map some)) (ho' : o' ∈ p.eager m g k (ws.map some)) :
    o.Apart o' := by
  have hself : ∀ o ∈ p.eager m g k (ws.map some), o.Apart o :=
    fun _ _ _ _ _ _ hne => absurd rfl hne
  exact (pairwise_apart_eager hn).forall_of_forall hself ho ho'

def namesOver (root : Pattern) (words : List String) (m : Nat) : List String :=
  (root.acronymsOver words m).map Acronym.name

structure LeavesOutRepeats (root : Pattern) (words : List String) (m : Nat) : Prop where
  acronyms_eq :
    root.acronymsOver words m = root.acronymsOver (words.eraseDupsBy Text.sameSpelling) m
  apart : ∀ n, ∀ o ∈ (Run.overWords root words m).observe n,
    ∀ o' ∈ (Run.overWords root words m).observe n, o.Apart o'
  mem_names : ∀ x, x ∈ root.namesOver words m ↔ ∃ w ∈ words, Text.upperText w = x ∧
    m ≤ w.length ∧ (root.spellings (.ofString w)).toList ≠ []
  perm : ∀ words', words' ~ words → ∀ x, x ∈ root.namesOver words' m ↔ x ∈ root.namesOver words m

theorem mem_namesOver_iff {root : Pattern} {words : List String} (hn : root.NamesSpelled words)
    (m : Nat) (x : String) : x ∈ root.namesOver words m ↔ ∃ w ∈ words, Text.upperText w = x ∧
      m ≤ w.length ∧ (root.spellings (.ofString w)).toList ≠ [] := by
  have hx := mem_names_gives (m := m) (g := []) (x := x) hn
  simpa [namesOver, acronymsOver_eq_gives, Answers, acronymsOf] using hx

/-- Over ASCII words, with a pattern whose words begin in ASCII, as all do that expressions are read
as, a run leaves out repeats and nothing else. -/
theorem leavesOutRepeats :
    (∀ source root, parse source = .ok root → root.HasAsciiInitials) ∧
    ∀ (root : Pattern) (words : List String) (m : Nat), root.HasAsciiInitials →
      (∀ w ∈ words, ∀ c ∈ w.toList, Text.isAscii c) → root.LeavesOutRepeats words m := by
  refine ⟨fun source root h => hasAsciiInitials_of_isWellFormed (isWellFormed_of_parse h), ?_⟩
  intro root words m hr hw
  have hn : root.NamesSpelled words := fun w h a => name_of_mem_acronymsOf hr (hw w h)
  constructor
  case acronyms_eq =>
    rw [acronymsOver_eq_gives, acronymsOver_eq_gives, gives_eraseDupsBy hr [] words hw]
  case apart =>
    intro n o ho o' ho' a a' ha ha'
    have hoe := Run.mem_eager_of_mem_observe root words m ho ha
    have hoe' := Run.mem_eager_of_mem_observe root words m ho' ha'
    exact apart_of_mem_eager hn hoe hoe' a a' ha ha'
  case mem_names => exact mem_namesOver_iff hn m
  case perm =>
    intro words' hp x
    have hn' : root.NamesSpelled words' := fun w h => hn w (hp.mem_iff.1 h)
    rw [mem_namesOver_iff hn', mem_namesOver_iff hn]
    simp only [hp.mem_iff]

theorem leavesOutRepeats_home :
    let root := group .anySubset [literal "Home", wildcard]
    let words := ["hO", "x", "Ho", "ax", "xh"]
    root.HasAsciiInitials ∧ (∀ w ∈ words, ∀ c ∈ w.toList, Text.isAscii c) ∧
      words.eraseDupsBy Text.sameSpelling = ["hO", "x", "ax", "xh"] ∧
      root.namesOver words 2 = ["HO", "XH"] ∧ root.LeavesOutRepeats words 2 := by
  intro root words
  have hr : root.HasAsciiInitials := all_eq_true.1 (by decide)
  have hw : ∀ w ∈ words, ∀ c ∈ w.toList, Text.isAscii c := fun w hw => all_eq_true.1 <|
    (all_eq_true (p := fun w : String => w.toList.all Text.isAscii)).1 (by decide) w hw
  refine ⟨hr, hw, by decide, ?_, leavesOutRepeats.2 root words 2 hr hw⟩
  rw [namesOver, acronymsOver_eq_gives]
  decide

end Pattern
end Initialism
