import Mathlib.Data.List.Perm.Subperm
import Initialism.Proofs.Match.Take

/-! In which order arrangements of children are found, and how often. An arrangement is a path: at
each step a child that was not used before, and one of its matches on the letters left. `allOf`
has one match for each path over all children, and `anySubset` has one for each path on which every
step takes a letter, both in the lexicographic order of the paths. -/
namespace Initialism
open List

/-- Steps, each of them a child by its place and a match of that child by its place. -/
abbrev Path := List (Nat × Nat)

namespace Path

abbrev Before : Path → Path → Prop := List.Lex (Prod.Lex (· < ·) (· < ·))

def places (π : Path) : List Nat := π.map Prod.fst

@[simp] theorem places_nil : places [] = [] := rfl

@[simp] theorem places_cons (i r : Nat) (π : Path) : places ((i, r) :: π) = i :: places π := rfl

/-- The path leads from the view to the match, if `f` has the children by their places: each step
has a match on what the one before it leaves, and it is one that is admitted. -/
inductive Leads (f : Nat → Matcher) (admits : Letters → Match → Bool) :
    Letters → Path → Match → Prop where
  | nil (v : Letters) : Leads f admits v [] (.skip v)
  | cons {v : Letters} {i r : Nat} {h m : Match} {π : Path} (hh : (f i v).toList[r]? = some h)
      (ha : admits v h = true) (hm : Leads f admits h.rest π m) :
      Leads f admits v ((i, r) :: π) (h.andThen m)

/-- The list has one match for each path to it that `R` allows, in the order of the paths. -/
def Lists (R : Path → Match → Prop) (l : List Match) : Prop :=
  ∃ found : List (Path × Match), (found.map Prod.fst).Pairwise Before ∧
    (∀ π m, (π, m) ∈ found ↔ R π m) ∧ found.map Prod.snd = l

variable {f : Nat → Matcher} {admits : Letters → Match → Bool} {early : Bool} {n : Nat}
  {is : List Nat} {v : Letters} {π : Path} {m : Match}
  {next : List Nat → Letters → List (Path × Match)}

def heads (admits : Letters → Match → Bool) (v : Letters) (l : List Match) : List (Match × Nat) :=
  l.zipIdx.filter fun s => admits v s.1

def steps (f : Nat → Matcher) (admits : Letters → Match → Bool)
    (next : List Nat → Letters → List (Path × Match)) (is : List Nat) (v : Letters) :
    List (Path × Match) :=
  (withOthers is).flatMap fun s => (heads admits v (f s.1 v).toList).flatMap fun h =>
    (next s.2 h.1.rest).map fun w => ((s.1, h.2) :: w.1, h.1.andThen w.2)

/-- The paths over the children at the places `is`, `n` in number, and what they lead to. They use
all the children or, with `early`, any of them. -/
def walks (f : Nat → Matcher) (admits : Letters → Match → Bool) (early : Bool) :
    Nat → List Nat → Letters → List (Path × Match)
  | 0, _, v => [([], .skip v)]
  | n+1, is, v =>
    (if early then [([], .skip v)] else []) ++ steps f admits (walks f admits early n) is v

theorem mem_heads {l : List Match} {s : Match × Nat} :
    s ∈ heads admits v l ↔ l[s.2]? = some s.1 ∧ admits v s.1 = true := by
  rw [heads, mem_filter, mem_zipIdx_iff_getElem?]

theorem map_fst_heads (l : List Match) :
    (heads admits v l).map Prod.fst = l.filter (admits v) := by
  have hz : l.zipIdx.map Prod.fst = l := zipIdx_map_fst 0 l
  calc
    (heads admits v l).map Prod.fst = (l.zipIdx.map Prod.fst).filter (admits v) := by
      rw [filter_map]
      rfl
    _ = l.filter (admits v) := by rw [hz]

theorem pairwise_heads (l : List Match) :
    (heads admits v l).Pairwise fun s t => s.2 < t.2 := by
  have hz : l.zipIdx.Pairwise fun s t => s.2 < t.2 := by
    rw [← pairwise_map (f := Prod.snd) (R := (· < ·)), zipIdx_map_snd]
    exact pairwise_lt_range'
  exact hz.filter _

theorem mem_steps : (π, m) ∈ steps f admits next is v ↔ ∃ s ∈ withOthers is, ∃ r h w,
    (f s.1 v).toList[r]? = some h ∧ admits v h = true ∧ w ∈ next s.2 h.rest ∧
      π = (s.1, r) :: w.1 ∧ m = h.andThen w.2 := by
  constructor
  · intro h
    obtain ⟨s, hs, h⟩ := mem_flatMap.1 h
    obtain ⟨⟨h, r⟩, hh, hw⟩ := mem_flatMap.1 h
    obtain ⟨w, hw, he⟩ := mem_map.1 hw
    obtain ⟨hπ, hm⟩ := Prod.mk.inj he
    obtain ⟨hr, ha⟩ := mem_heads.1 hh
    exact ⟨s, hs, r, h, w, hr, ha, hw, hπ.symm, hm.symm⟩
  · intro h
    obtain ⟨s, hs, r, h, w, hr, ha, hw, rfl, rfl⟩ := h
    refine mem_flatMap.2 ⟨s, hs, mem_flatMap.2 ⟨(h, r), mem_heads.2 ⟨hr, ha⟩, ?_⟩⟩
    exact mem_map_of_mem hw

theorem mem_walks (hn : is.length = n) : (π, m) ∈ walks f admits early n is v ↔
    Leads f admits v π m ∧ π.places <+~ is ∧ (early = true ∨ π.length = n) := by
  induction n generalizing is v π m with
  | zero =>
    obtain rfl := length_eq_zero_iff.1 hn
    constructor
    · intro h
      obtain ⟨rfl, rfl⟩ := Prod.mk.inj (mem_singleton.1 h)
      exact ⟨.nil v, nil_subperm, .inr rfl⟩
    · intro h
      obtain ⟨hl, hs, -⟩ := h
      cases hl with
      | nil => exact mem_singleton_self _
      | cons => simp at hs
  | succ n ih =>
    -- `n` is the number of children, so the induction goes on with the others of each.
    have hlen (s) (hs : s ∈ withOthers is) : s.2.length = n := by
      have hl := length_of_mem_withOthers hs
      omega
    rw [walks, mem_append, mem_steps]
    constructor
    · intro h
      rcases h with h | ⟨s, hs, r, h, w, hr, ha, hw, rfl, rfl⟩
      · cases early with
        | false => cases h
        | true =>
          obtain ⟨rfl, rfl⟩ := Prod.mk.inj (mem_singleton.1 h)
          exact ⟨.nil v, nil_subperm, .inl rfl⟩
      · obtain ⟨hl, hp, he⟩ := (ih (hlen s hs)).1 hw
        refine ⟨.cons hr ha hl, ?_, he.imp_right (congrArg (· + 1))⟩
        exact cons_subperm_iff_withOthers.2 ⟨s, hs, rfl, hp⟩
    · intro h
      obtain ⟨hl, hp, he⟩ := h
      cases hl with
      | nil =>
        cases he with
        | inl he => exact .inl (by simp [he])
        | inr he => cases he
      | @cons _ i r h m π hr ha hl =>
        obtain ⟨s, hs, rfl, hps⟩ := cons_subperm_iff_withOthers.1 hp
        have he : early = true ∨ π.length = n := he.imp_right Nat.succ.inj
        exact .inr ⟨s, hs, r, h, (π, m), hr, ha, (ih (hlen s hs)).2 ⟨hl, hps, he⟩, rfl, rfl⟩

theorem pairwise_steps (his : is.Pairwise (· < ·)) (hnext : ∀ s ∈ withOthers is, ∀ v,
    ((next s.2 v).map Prod.fst).Pairwise Before) :
    ((steps f admits next is v).map Prod.fst).Pairwise Before := by
  rw [pairwise_map, steps, pairwise_flatMap]
  constructor
  · intro s hs
    rw [pairwise_flatMap]
    constructor
    · intro h _
      rw [pairwise_map]
      exact (pairwise_map.1 (hnext s hs h.1.rest)).imp fun hb => .cons hb
    · apply (pairwise_heads (f s.1 v).toList).imp
      intro h k hhk x hx y hy
      obtain ⟨w, -, rfl⟩ := mem_map.1 hx
      obtain ⟨u, -, rfl⟩ := mem_map.1 hy
      exact .rel (.right _ hhk)
  · have hw : (withOthers is).Pairwise fun s t => s.1 < t.1 := by
      rwa [← pairwise_map (f := Prod.fst) (R := (· < ·)), map_fst_withOthers]
    apply hw.imp
    intro s t hst x hx y hy
    obtain ⟨h, -, hx⟩ := mem_flatMap.1 hx
    obtain ⟨k, -, hy⟩ := mem_flatMap.1 hy
    obtain ⟨w, -, rfl⟩ := mem_map.1 hx
    obtain ⟨u, -, rfl⟩ := mem_map.1 hy
    exact .rel (.left _ _ hst)

theorem pairwise_walks (his : is.Pairwise (· < ·)) :
    ((walks f admits early n is v).map Prod.fst).Pairwise Before := by
  induction n generalizing is v with
  | zero => exact pairwise_singleton ..
  | succ n ih =>
    have hs : ((steps f admits (walks f admits early n) is v).map Prod.fst).Pairwise Before := by
      apply pairwise_steps his
      intro s hs v
      exact ih (his.sublist (sublist_of_mem_withOthers hs))
    cases early with
    | false => exact hs
    | true =>
      refine pairwise_cons.2 ⟨?_, hs⟩
      intro x hx
      obtain ⟨⟨π, m⟩, hw, rfl⟩ := mem_map.1 hx
      obtain ⟨s, -, r, h, w, -, -, -, rfl, -⟩ := mem_steps.1 hw
      exact .nil

theorem lists_walks (hn : is.length = n) (his : is.Pairwise (· < ·)) :
    Lists (fun π m => Leads f admits v π m ∧ π.places <+~ is ∧ (early = true ∨ π.length = n))
      ((walks f admits early n is v).map Prod.snd) :=
  ⟨_, pairwise_walks his, fun _ _ => mem_walks hn, rfl⟩

theorem map_snd_steps : (steps f admits next is v).map Prod.snd = (withOthers is).flatMap fun s =>
    ((f s.1 v).toList.filter (admits v)).flatMap fun h =>
      ((next s.2 h.rest).map Prod.snd).map h.andThen := by
  simp only [steps, ← map_fst_heads, map_flatMap, flatMap_map, map_map]
  rfl

end Path

namespace Matcher
open Initialism.Path (walks)
variable {f : Nat → Matcher} {ms : List Matcher} {n : Nat} {is : List Nat} {v : Letters}

theorem andThen_skip_rest (h : Match) : h.andThen (.skip h.rest) = h := by
  simp [Match.andThen, Match.skip]

theorem map_snd_walks_allOfCount (hn : is.length = n) (hne : is ≠ []) :
    (walks f (fun _ _ => true) false n is v).map Prod.snd =
      (allOfCount n (is.map f) v).toList := by
  induction n generalizing is v with
  | zero => exact absurd (length_eq_zero_iff.1 hn) hne
  | succ n ih =>
    have hs : (Path.steps f (fun _ _ => true) (walks f (fun _ _ => true) false n) is v).map Prod.snd =
        (withOthers is).flatMap fun s => ((f s.1 v).toList.filter fun _ => true).flatMap fun h =>
          ((walks f (fun _ _ => true) false n s.2 h.rest).map Prod.snd).map h.andThen :=
      Path.map_snd_steps
    rw [walks, if_neg Bool.false_ne_true, nil_append, hs]
    simp only [filter_true]
    -- The last child has no others to be followed by: its matches end the arrangement.
    cases n with
    | zero =>
      obtain ⟨i, rfl⟩ := length_eq_one_iff.1 hn
      simp [walks, withOthers, allOfCount, andThen_skip_rest]
    | succ n =>
      have hl : 1 < (is.map f).length := by
        rw [length_map]
        omega
      rw [toList_allOfCount_succ hl, withOthers_map, flatMap_map]
      apply flatMap_congr
      intro s hs
      have hs := length_of_mem_withOthers hs
      have hne : s.2 ≠ [] := by
        intro h
        simp [h] at hs
        omega
      have hs : s.2.length = n + 1 := by omega
      simp only [toList_followed, ih hs hne]

theorem map_snd_walks_someOfCount (hn : is.length = n) :
    (walks f (fun v h => h.rest.length < v.length) true n is v).map Prod.snd =
      .skip v :: (someOfCount n (is.map f) v).toList := by
  induction n generalizing is v with
  | zero => rfl
  | succ n ih =>
    rw [toList_someOfCount_succ, withOthers_map, flatMap_map]
    rw [walks, if_pos rfl, map_append, map_singleton, Path.map_snd_steps, singleton_append]
    congr 1
    apply flatMap_congr
    intro s hs
    have hs := length_of_mem_withOthers hs
    have hs : s.2.length = n := by omega
    simp only [ih hs, map_cons, andThen_skip_rest]

theorem length_rest_of_mem_someOfCount {m : Match} (h : m ∈ (someOfCount n ms v).toList) :
    m.rest.length < v.length := by
  induction n generalizing ms v m with
  | zero => cases h
  | succ n ih =>
    rw [toList_someOfCount_succ] at h
    obtain ⟨s, -, h⟩ := mem_flatMap.1 h
    obtain ⟨k, hk, h⟩ := mem_flatMap.1 h
    have hk : k.rest.length < v.length := of_decide_eq_true (mem_filter.1 hk).2
    cases mem_cons.1 h with
    | inl h => exact h ▸ hk
    | inr h =>
      obtain ⟨m, hm, rfl⟩ := mem_map.1 h
      have hm := ih hm
      rw [Match.rest_andThen]
      omega

end Matcher

def childAt (ps : List Pattern) (i : Nat) : Matcher :=
  match ps[i]? with
  | some p => p.matcher
  | none => fun _ => .done

theorem map_childAt_range (ps : List Pattern) :
    (range ps.length).map (childAt ps) = ps.map Pattern.matcher := by
  apply ext_getElem
  · simp
  · intro i hi _
    have hi : i < ps.length := by simpa using hi
    simp [childAt, hi]

namespace Path
variable {ps : List Pattern} {v : Letters} {π : Path} {m : Match}

def Arranges (ps : List Pattern) (v : Letters) (π : Path) (m : Match) : Prop :=
  Leads (childAt ps) (fun _ _ => true) v π m ∧ π.places ~ range ps.length

def Selects (ps : List Pattern) (v : Letters) (π : Path) (m : Match) : Prop :=
  Leads (childAt ps) (fun v h => h.rest.length < v.length) v π m ∧ π.places.Nodup

theorem Leads.lt_length {admits : Letters → Match → Bool} (h : Leads (childAt ps) admits v π m) :
    ∀ i ∈ π.places, i < ps.length := by
  induction h with
  | nil => simp
  | @cons v i r h m π hh _ _ ih =>
    refine forall_mem_cons.2 ⟨?_, ih⟩
    by_contra hi
    have hp : ps[i]? = none := getElem?_eq_none (Nat.not_lt.1 hi)
    simp [childAt, hp] at hh

theorem Lists.congr {R R' : Path → Match → Prop} {l : List Match} (h : Lists R l)
    (hR : ∀ π m, R' π m ↔ R π m) : Lists R' l := by
  obtain ⟨found, hf, hm, hl⟩ := h
  exact ⟨found, hf, fun π m => (hm π m).trans (hR π m).symm, hl⟩

theorem arranges_iff : Arranges ps v π m ↔ Leads (childAt ps) (fun _ _ => true) v π m ∧
    π.places <+~ range ps.length ∧ (false = true ∨ π.length = ps.length) := by
  refine and_congr_right fun _ => ⟨fun h => ⟨h.subperm, .inr ?_⟩, fun h => ?_⟩
  · simpa [places] using h.length_eq
  · have hl : π.length = ps.length := by simpa using h.2
    exact h.1.perm_of_length_le (by simp [places, hl])

theorem selects_iff : Selects ps v π m ↔
    Leads (childAt ps) (fun v h => h.rest.length < v.length) v π m ∧
      π.places <+~ range ps.length ∧ (true = true ∨ π.length = ps.length) := by
  refine and_congr_right fun hl => ⟨fun h => ⟨?_, .inl rfl⟩, fun h => ?_⟩
  · exact h.subperm fun i hi => mem_range.2 (hl.lt_length i hi)
  · obtain ⟨is, hp, hs⟩ := h.1
    exact hp.nodup_iff.1 (nodup_range.sublist hs)

end Path

namespace Pattern
open Initialism.Path (Lists Arranges Selects)

theorem lists_arranges {ps : List Pattern} (hps : ps ≠ []) (v : Letters) :
    Lists (Arranges ps v) ((group .allOf ps).matcher v).toList := by
  have hn : (range ps.length).length = ps.length := length_range
  have hne : range ps.length ≠ [] := by simpa using hps
  have hm : ((group .allOf ps).matcher v).toList =
      (Matcher.allOfCount ps.length ((range ps.length).map (childAt ps)) v).toList := by
    rw [map_childAt_range, matcher, matchers_eq, Matcher.group, Matcher.allOf, length_map]
  rw [hm, ← Matcher.map_snd_walks_allOfCount hn hne]
  exact (Path.lists_walks hn pairwise_lt_range).congr fun _ _ => Path.arranges_iff

theorem lists_selects (ps : List Pattern) (v : Letters) :
    Lists (Selects ps v) ((group .anySubset ps).matcher v).toList := by
  have hn : (range ps.length).length = ps.length := length_range
  have hm : ((group .anySubset ps).matcher v).toList = .skip v ::
      (Matcher.someOfCount ps.length ((range ps.length).map (childAt ps)) v).toList := by
    rw [map_childAt_range, matcher, matchers_eq, Matcher.group, Matcher.anySubset, length_map]
    rfl
  rw [hm, ← Matcher.map_snd_walks_someOfCount hn]
  exact (Path.lists_walks hn pairwise_lt_range).congr fun _ _ => Path.selects_iff

/-- Arrangements of all children, and of any of them that take a letter each, are found once for
each path, in lexicographic order. So the one match of any children that takes nothing comes
first. -/
theorem matcher_lists_paths (ps : List Pattern) (v : Letters) :
    (ps ≠ [] → Lists (Arranges ps v) ((group .allOf ps).matcher v).toList) ∧
    Lists (Selects ps v) ((group .anySubset ps).matcher v).toList ∧
    ∃ l, ((group .anySubset ps).matcher v).toList = .skip v :: l ∧
      ∀ m ∈ l, m.rest.length < v.length := by
  refine ⟨fun hps => lists_arranges hps v, lists_selects ps v, _, rfl, ?_⟩
  intro m hm
  exact Matcher.length_rest_of_mem_someOfCount hm

/-- Two paths lead to each of two matches, since the child at the second place may take nothing. -/
theorem matcher_lists_paths_ab :
    let ps := [wildcard, optional wildcard]
    let ms := ((group .allOf ps).matcher (.ofString "ab")).toList
    ps ≠ [] ∧ Lists (Arranges ps (.ofString "ab")) ms ∧ ms.map Match.take =
      [⟨[.letter 'a'], ['b']⟩, ⟨[.letter 'a', .letter 'b'], []⟩, ⟨[.letter 'a'], ['b']⟩,
        ⟨[.letter 'a', .letter 'b'], []⟩] := by
  intro ps ms
  exact ⟨by decide, (matcher_lists_paths ps _).1 (by decide), by decide⟩

end Pattern
end Initialism
