import Initialism.Run
import Initialism.Proofs.Match.Lengths

/-! A run beside one that looks at all answers of its stream at once, searches every word that is
long enough for the user and not guarded, and knows nothing of the pattern's own lengths. Asking a
run again and again gives what that one gives, and takes no answer from the stream before its
turn. -/
namespace Initialism
open List

/-- What is seen of one request: the reply, the candidates taken so far, and the answers that the
stream has not been asked for. -/
structure Observation where
  acronym? : Option Acronym
  pulled : Nat
  left : List (Option String)
deriving DecidableEq, Repr

def Pattern.acronymsOf (p : Pattern) (word : String) : List Acronym :=
  (p.spellings (.ofString word)).toList.map Match.acronym

/-- What a word gives when the names in `guard` are handed out already. -/
def Pattern.given (p : Pattern) (m : Nat) (guard : List String) (word : String) : List Acronym :=
  if Text.upperText word ∈ guard ∨ word.length < m then [] else p.acronymsOf word

def Pattern.eager (p : Pattern) (m : Nat) (guard : List String) (pulled : Nat) :
    List (Option String) → List Observation
  | [] => []
  | none :: l => ⟨none, pulled, l⟩ :: p.eager m guard pulled l
  | some w :: l =>
    (p.given m guard w).map (fun a => ⟨some a, pulled + 1, l⟩) ++
      p.eager m (guard ++ (p.given m guard w).map Acronym.name) (pulled + 1) l

namespace Pattern
variable {p : Pattern} {m : Nat} {g g' : List String}

theorem given_congr (h : ∀ x, x ∈ g ↔ x ∈ g') (w : String) : p.given m g w = p.given m g' w := by
  simp only [given, h]

/-- Only the names in the guard matter, not how often and in which order they stand there. -/
theorem eager_congr (h : ∀ x, x ∈ g ↔ x ∈ g') (k : Nat) (l : List (Option String)) :
    p.eager m g k l = p.eager m g' k l := by
  induction l generalizing g g' k with
  | nil => rfl
  | cons o l ih =>
    cases o with
    | none => simp only [eager, ih h]
    | some w =>
      have hn (x : String) : x ∈ g ++ (p.given m g' w).map Acronym.name ↔
          x ∈ g' ++ (p.given m g' w).map Acronym.name := by
        rw [mem_append, mem_append, h x]
      simp only [eager, given_congr h, ih hn]

theorem eager_of_given_nil {w : String} (h : p.given m g w = []) (k : Nat)
    (l : List (Option String)) : p.eager m g k (some w :: l) = p.eager m g (k+1) l := by
  simp [eager, h]

theorem acronymsOf_eq_nil {w : String} (h : ¬ p.Fits w.length) : p.acronymsOf w = [] := by
  have hl : (Letters.ofString w).length = w.length := by
    rw [← Letters.length_toList, Letters.ofString, Letters.toList_ofList, String.length_toList]
  rw [acronymsOf, spellings_eq_nil (hl ▸ h), map_nil]

end Pattern

namespace Run
variable {m : Nat} {r : Run}

def left (r : Run) : List (Option String) := (r.answers ()).toList

def pending (r : Run) : List Match := (r.current.map fun c => (c.more ()).toList).getD []

def observation (r : Run) : Observation := ⟨r.next.1.acronym?, r.next.2.pulled, r.next.2.left⟩

def observe : Nat → Run → List Observation
  | 0, _ => []
  | n+1, r => r.observation :: observe n r.next.2

def final (r : Run) : Observation := ⟨none, r.pulled + r.left.countP (·.isSome), []⟩

/-- The observations that a run still owes. -/
def owed (m : Nat) (r : Run) : List Observation :=
  r.pending.map (fun x => ⟨some x.acronym, r.pulled, r.left⟩) ++
    r.root.eager m (r.names.toList ++ r.pending.map Match.name) r.pulled r.left

structure Bounded (m : Nat) (r : Run) : Prop where
  least : r.least = max m r.root.minLength
  most : r.most = r.root.maxLength

theorem mem_insert_toList_append (names : Std.TreeSet String) (x y : String) (l : List String) :
    y ∈ (names.insert x).toList ++ l ↔ y ∈ names.toList ++ x :: l := by
  rw [mem_append, mem_append, mem_cons, Std.TreeSet.mem_toList, Std.TreeSet.mem_toList,
    Std.TreeSet.mem_insert, Std.LawfulEqCmp.compare_eq_iff_eq, eq_comm, or_left_comm, or_assoc]

theorem pause_eq (r : Run) (log : List Event) :
    (r.pause log).1.acronym? = none ∧ ∃ t, (r.pause log).2 = { r with tally := t } := by
  rw [pause]
  split
  · exact ⟨rfl, r.tally, rfl⟩
  · exact ⟨rfl, .zero, rfl⟩

theorem given_eq_nil {w : String} {g : List String} (hb : r.Bounded m) (h : ¬ r.admits w) :
    r.root.given m g w = [] := by
  rw [Pattern.given]
  split
  · rfl
  · next hw =>
    refine Pattern.acronymsOf_eq_nil fun hf => h ?_
    have hm := hf.1
    have hM := hf.2
    simp only [admits, hb.least, hb.most, Bool.and_eq_true, decide_eq_true_eq]
    omega

/-- What follows from looking for the next match, in terms of the answers looked through. -/
structure Follows (m : Nat) (g : List String) (r : Run) (l : List (Option String))
    (s : Reply × Run) : Prop where
  bounded : s.2.Bounded m
  final : s.2.final = ⟨none, r.pulled + l.countP (·.isSome), []⟩
  owed : (r.root.eager m g r.pulled l = [] ∧ s.1.acronym? = none ∧ s.2.left = [] ∧
      s.2.owed m = []) ∨
    r.root.eager m g r.pulled l = ⟨s.1.acronym?, s.2.pulled, s.2.left⟩ :: s.2.owed m

theorem Follows.skip {g : List String} {w : String} {l : List (Option String)} {s : Reply × Run}
    (h : Follows m g r.count l s) (hg : r.root.given m g w = []) :
    Follows m g r (some w :: l) s := by
  obtain ⟨hb, hf, ho⟩ := h
  have he := Pattern.eager_of_given_nil hg r.pulled l
  refine ⟨hb, ?_, ?_⟩
  · rw [hf]
    simp only [count, countP_cons, Option.isSome_some, if_true]
    congr 1
    omega
  · rw [he]
    exact ho

theorem follows_pause {g : List String} {rest : Unit → Enumeration (Option String)}
    (hb : r.Bounded m) (hc : r.current = none) (hg : ∀ x, x ∈ g ↔ x ∈ r.names) (log : List Event) :
    Follows m g r (none :: (rest ()).toList) ({ r with answers := rest }.pause log) := by
  obtain ⟨ha, t, ht⟩ := pause_eq { r with answers := rest } log
  have hn (x : String) : x ∈ g ↔ x ∈ r.names.toList ++ [] := by
    rw [hg x, append_nil, Std.TreeSet.mem_toList]
  refine ⟨?_, ?_, .inr ?_⟩
  · rw [ht]
    exact ⟨hb.least, hb.most⟩
  · rw [ht]
    simp [Run.final, left]
  · rw [ha, ht, Pattern.eager, Pattern.eager_congr hn]
    simp [owed, pending, hc, left]

theorem follows_end {g : List String} (hb : r.Bounded m) (hc : r.current = none)
    (log : List Event) : Follows m g r [] ({ r with answers := fun _ => .done }.pause log) := by
  obtain ⟨ha, t, ht⟩ := pause_eq { r with answers := fun _ => .done } log
  refine ⟨?_, ?_, .inl ⟨rfl, ha, ?_, ?_⟩⟩
  · rw [ht]
    exact ⟨hb.least, hb.most⟩
  · rw [ht]
    simp [Run.final, left]
  · rw [ht]
    rfl
  · rw [ht]
    simp [owed, pending, hc, left, Pattern.eager]

theorem follows_handOut {g : List String} {w : String} {x : Match} {more : Unit → Enumeration Match}
    {rest : Unit → Enumeration (Option String)} (hb : r.Bounded m)
    (hg : ∀ x, x ∈ g ↔ x ∈ r.names) (hgw : ¬ r.isGuarded w) (hw : r.admits w)
    (hx : r.root.spellings (.ofString w) = .found x more) (log : List Event) :
    Follows m g r (some w :: (rest ()).toList)
      (⟨some x.acronym, log.reverse⟩, { r.count with answers := rest }.handOut w 1 x more) := by
  have hgiven : r.root.given m g w = x.acronym :: (more ()).toList.map Match.acronym := by
    have hn : Text.upperText w ∉ g := by simpa [isGuarded, hg] using hgw
    have hm : ¬ w.length < m := by
      simp only [admits, hb.least, Bool.and_eq_true, decide_eq_true_eq] at hw
      omega
    rw [Pattern.given, if_neg (not_or.2 ⟨hn, hm⟩), Pattern.acronymsOf, hx]
    rfl
  have hn (y : String) : y ∈ g ++ (r.root.given m g w).map Acronym.name ↔
      y ∈ (r.names.insert x.name).toList ++ (more ()).toList.map Match.name := by
    rw [mem_insert_toList_append, hgiven, map_cons, map_map, mem_append, mem_append, hg y,
      Std.TreeSet.mem_toList]
    rfl
  refine ⟨⟨hb.least, hb.most⟩, ?_, .inr ?_⟩
  · simp [Run.final, left, handOut, count, Nat.add_assoc, Nat.add_comm]
  · rw [Pattern.eager, Pattern.eager_congr hn, hgiven]
    simp [owed, pending, left, handOut, count]

theorem follows_seek {g : List String} (e : Enumeration (Option String)) (log : List Event)
    (hb : r.Bounded m) (hc : r.current = none) (hg : ∀ x, x ∈ g ↔ x ∈ r.names) :
    Follows m g r e.toList (r.seek log e) := by
  induction e generalizing r log with
  | done => exact follows_end hb hc log
  | found o rest ih =>
    cases o with
    | none => exact follows_pause hb hc hg log
    | some w =>
      have skip (log : List Event) (hw : r.root.given m g w = []) :
          Follows m g r (some w :: (rest ()).toList) (r.count.seek log (rest ())) :=
        (ih () (r := r.count) log ⟨hb.least, hb.most⟩ hc hg).skip hw
      -- A word is passed over for its spelling, its length or for want of matches, and each of
      -- these is a reason to give nothing.
      rw [seek, Enumeration.toList_found]
      split
      · next hgw =>
        refine skip _ (if_pos (.inl ?_))
        simpa [isGuarded, hg] using hgw
      · next hgw =>
        split
        · next hw =>
          split
          · next hx =>
            refine skip _ ?_
            rw [Pattern.given, Pattern.acronymsOf, hx]
            simp
          · next x more hx => exact follows_handOut hb hg hgw hw hx log
        · next hw => exact skip _ (given_eq_nil hb hw)

theorem follows_next (hb : r.Bounded m) (hp : r.pending = []) :
    Follows m r.names.toList r r.left r.next := by
  have hg (x : String) : x ∈ r.names.toList ↔ x ∈ r.names := Std.TreeSet.mem_toList
  rw [next]
  split
  · next hc => exact follows_seek _ _ hb hc hg
  · next c hc =>
    have hm : (c.more ()).toList = [] := by simpa [pending, hc] using hp
    split
    · next h => simp [h] at hm
    · have h := follows_seek (r := r.finish) (r.answers ()) [.matched c.word c.found]
        ⟨hb.least, hb.most⟩ rfl hg
      exact ⟨h.bounded, h.final, h.owed⟩

/-- A request is answered by what the run owes first; a run that owes nothing only pauses. -/
structure Answers (m : Nat) (r : Run) : Prop where
  bounded : r.next.2.Bounded m
  final : r.next.2.final = r.final
  owed : (r.owed m = [] ∧ r.observation = r.final ∧ r.next.2.owed m = []) ∨
    r.owed m = r.observation :: r.next.2.owed m

theorem Bounded.answers_of_pending (hb : r.Bounded m) {c : Candidate} (hc : r.current = some c)
    {x : Match} {more : Unit → Enumeration Match} (hx : c.more () = .found x more) :
    r.Answers m := by
  have hr : r.next = (⟨some x.acronym, []⟩, r.handOut c.word (c.found + 1) x more) := by
    rw [next, hc]
    simp only [hx]
  have hp : r.pending = x :: (more ()).toList := by simp [pending, hc, hx]
  refine ⟨?_, ?_, .inr ?_⟩
  · rw [hr]
    exact ⟨hb.least, hb.most⟩
  · rw [hr]
    rfl
  · have hn := mem_insert_toList_append r.names x.name (l := (more ()).toList.map Match.name)
    rw [observation, hr, owed, hp, map_cons, map_cons, ← Pattern.eager_congr hn]
    rfl

theorem Bounded.answers (hb : r.Bounded m) : r.Answers m := by
  -- Nothing in hand: there is no word, or all its matches are handed out. Both times the next
  -- match is looked for.
  have hnil (hp : r.pending = []) : r.Answers m := by
    obtain ⟨hb', hf, ho⟩ := follows_next hb hp
    have he : r.owed m = r.root.eager m r.names.toList r.pulled r.left := by
      simp [owed, hp]
    refine ⟨hb', hf, he ▸ ho.imp_left ?_⟩
    intro h
    obtain ⟨h, ha, hl, ho⟩ := h
    refine ⟨h, ?_, ho⟩
    have hr : r.next.2.final = r.final := hf
    rw [← hr, observation, Run.final, ha, hl]
    rfl
  cases hc : r.current with
  | none => exact hnil (by simp [pending, hc])
  | some c =>
    cases hx : c.more () with
    | done => exact hnil (by simp [pending, hc, hx])
    | found x more => exact hb.answers_of_pending hc hx

theorem take_append_replicate_succ {α : Type*} (l : List α) (a : α) (n : Nat) :
    (l ++ replicate (n+1) a).take n = (l ++ replicate n a).take n := by
  rw [take_append, take_append, take_replicate, take_replicate]
  congr 2
  omega

theorem observe_eq_take (hb : r.Bounded m) (n : Nat) :
    r.observe n = (r.owed m ++ replicate n r.final).take n := by
  induction n generalizing r with
  | zero => rfl
  | succ n ih =>
    obtain ⟨hb', hf, ho⟩ := hb.answers
    rw [observe, ih hb', hf]
    -- The request uses up a pause if nothing is owed, and what is owed first if there is something.
    rcases ho with ⟨h, hr, h'⟩ | h
    · rw [h, h', hr, replicate_succ]
      rfl
    · rw [h, cons_append, take_succ_cons, take_append_replicate_succ]

/-- Asked `n` times, a run gives what its answers give one by one, and pauses from then on. -/
theorem observe_eq_eager (root : Pattern) (answers : Unit → Enumeration (Option String))
    (m n : Nat) :
    ((ofAnswers root answers).atLeast m).observe n =
      (root.eager m [] 0 (answers ()).toList ++ replicate n
        (⟨none, (answers ()).toList.countP (·.isSome), []⟩ : Observation)).take n := by
  have hb : ((ofAnswers root answers).atLeast m).Bounded m := ⟨rfl, rfl⟩
  rw [observe_eq_take hb n]
  have hn : (∅ : Std.TreeSet String).toList = [] := rfl
  simp [owed, pending, Run.final, left, ofAnswers, atLeast, hn]

end Run
end Initialism
