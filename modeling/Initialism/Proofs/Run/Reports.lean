import Mathlib.Data.List.DropRight
import Initialism.Proofs.Run.Eager

/-! What a run reports of itself. Its counts change at four places, while a word is searched, when a
match is handed out, when the last match of a word is used up and when the stream pauses. Each report
adds up all the same: it counts the words that the stream has given, the matches that were handed
out and the words that had one, all since the report before it. -/
namespace Initialism
open List

namespace Event

def found? : Event → Option Nat
  | matched _ n => some n
  | _ => none

def tally? : Event → Option Tally
  | exhausted t => some t
  | _ => none

end Event

structure Request where
  taken : List (Option String)
  reply : Reply

namespace Request

def candidates (q : Request) : Nat := q.taken.countP (·.isSome)

def founds (q : Request) : List Nat := q.reply.events.filterMap Event.found?

def handsOut (q : Request) : Bool := q.reply.acronym?.isSome

def reports (q : Request) : Bool := q.reply.events.any (·.tally?.isSome)

end Request

def foundsOf (qs : List Request) : List Nat := qs.flatMap Request.founds

def Tally.of (qs : List Request) : Tally where
  candidates := (qs.map Request.candidates).sum
  matched := (foundsOf qs).length
  acronyms := qs.countP Request.handsOut

theorem foundsOf_concat (qs : List Request) (q : Request) :
    foundsOf (qs ++ [q]) = foundsOf qs ++ q.founds := by
  simp [foundsOf]

theorem Tally.of_concat (qs : List Request) (q : Request) : Tally.of (qs ++ [q]) =
    ⟨(Tally.of qs).candidates + q.candidates, (Tally.of qs).matched + q.founds.length,
      (Tally.of qs).acronyms + if q.handsOut then 1 else 0⟩ := by
  simp [Tally.of, foundsOf_concat, countP_singleton]

def Tally.pull (t : Tally) (ws : List (Option String)) : Tally :=
  { t with candidates := t.candidates + ws.countP (·.isSome) }

def Tally.report (t : Tally) : List Event := if t.candidates = 0 then [] else [.exhausted t]

def Tally.reported (t : Tally) : Tally := if t.candidates = 0 then t else .zero

def Event.IsQuiet (e : Event) : Prop := e.found? = none ∧ e.tally? = none

namespace Run
variable {r s : Run} {log : List Event} {ws : List (Option String)} {qs : List Request} {ns : List Nat}
  {p : Reply}

def after (r : Run) : Nat → Run
  | 0 => r
  | n+1 => (r.after n).next.2

def request (r : Run) : Request := ⟨r.left.take (r.left.length - r.next.2.left.length), r.next.1⟩

def requests (r : Run) : Nat → List Request
  | 0 => []
  | n+1 => r.requests n ++ [(r.after n).request]

def foundInHand (r : Run) : Nat := (r.current.map Candidate.found).getD 0

/-- Looking for a match has taken the answers `ws`, and it has come to a pause or to the first match
of a word. -/
inductive Sought (r : Run) (log : List Event) (ws : List (Option String)) : Reply × Run → Prop where
  | paused {s : Run} (es : List Event) (hes : ∀ e ∈ es, e.IsQuiet) (hc : s.current = none)
      (ht : s.tally = (r.tally.pull ws).reported) :
      Sought r log ws (⟨none, log.reverse ++ es ++ (r.tally.pull ws).report⟩, s)
  | found {s : Run} (a : Acronym) (es : List Event) (hes : ∀ e ∈ es, e.IsQuiet)
      (hc : s.current.map Candidate.found = some 1)
      (ht : s.tally = { r.tally.pull ws with acronyms := r.tally.acronyms + 1 }) :
      Sought r log ws (⟨some a, log.reverse ++ es⟩, s)

theorem pause_eq_report (r : Run) (log : List Event) : r.pause log =
    (⟨none, log.reverse ++ r.tally.report⟩, { r with tally := r.tally.reported }) := by
  rw [pause]
  split
  · next h => simp [Tally.report, Tally.reported, h]
  · next h => simp [Tally.report, Tally.reported, h]

theorem Sought.skip {w : String} {l : List Event} {q : Reply × Run} (hl : ∀ e ∈ l, e.IsQuiet)
    (h : Sought r.count (l ++ log) ws q) : Sought r log (some w :: ws) q := by
  have ht : r.count.tally.pull ws = r.tally.pull (some w :: ws) := by
    simp [Tally.pull, count, Nat.add_assoc, Nat.add_comm]
  have hq (es : List Event) (hes : ∀ e ∈ es, e.IsQuiet) : ∀ e ∈ l.reverse ++ es, e.IsQuiet := by
    intro e he
    exact (mem_append.1 he).elim (fun h => hl e (mem_reverse.1 h)) (hes e)
  cases h with
  | paused es hes hc hs =>
    rw [ht] at hs ⊢
    rw [reverse_append, append_assoc log.reverse]
    exact .paused _ (hq es hes) hc hs
  | found a es hes hc hs =>
    rw [ht] at hs
    rw [reverse_append, append_assoc log.reverse]
    exact .found a _ (hq es hes) hc hs

theorem exists_sought (e : Enumeration (Option String)) (log : List Event) (hc : r.current = none) :
    ∃ ws, e.toList = ws ++ (r.seek log e).2.left ∧ r.Sought log ws (r.seek log e) := by
  induction e generalizing r log with
  | done =>
    rw [seek, pause_eq_report, ← append_nil log.reverse]
    exact ⟨[], rfl, .paused [] (by simp) hc rfl⟩
  | found o rest ih =>
    cases o with
    | none =>
      rw [seek, pause_eq_report, ← append_nil log.reverse]
      exact ⟨[none], rfl, .paused [] (by simp) hc rfl⟩
    | some w =>
      -- Whatever check the word fails, it is counted and looking goes on behind it.
      have skip (l : List Event) (hl : ∀ e ∈ l, e.IsQuiet) :
          ∃ ws, (Enumeration.found (some w) rest).toList =
              ws ++ (r.count.seek (l ++ log) (rest ())).2.left ∧
            r.Sought log ws (r.count.seek (l ++ log) (rest ())) := by
        obtain ⟨ws, hw, hs⟩ := ih () (r := r.count) (l ++ log) hc
        exact ⟨some w :: ws, congrArg (some w :: ·) hw, hs.skip hl⟩
      rw [seek]
      split
      · exact skip [.skipped w] (forall_mem_singleton.2 ⟨rfl, rfl⟩)
      · split
        · split
          · exact skip [] (by simp)
          · next m more hm =>
            rw [← append_nil log.reverse]
            exact ⟨[some w], rfl, .found m.acronym [] (by simp) rfl rfl⟩
        · exact skip [] (by simp)

/-- What is known of the counts after the requests `qs`, while a request goes on that has told of the
numbers `ns`. The matches of the word in hand are told of only when it is laid aside. -/
structure Counted (qs : List Request) (ns : List Nat) (r : Run) : Prop where
  tally : r.tally = { Tally.of qs with matched := (Tally.of qs).matched + ns.length }
  sum : (foundsOf qs).sum + ns.sum + r.foundInHand = (Tally.of qs).acronyms
  pos : ∀ n ∈ foundsOf qs ++ ns, 0 < n
  inHand : ∀ c, r.current = some c → 0 < c.found

theorem Counted.finish {c : Candidate} (h : Counted qs [] r) (hc : r.current = some c) :
    Counted qs [c.found] r.finish := by
  obtain ⟨ht, hs, hp, hi⟩ := h
  refine ⟨?_, ?_, ?_, ?_⟩
  · simp [Run.finish, ht]
  · simpa [Run.finish, foundInHand, hc] using hs
  · rw [append_nil] at hp
    exact forall_mem_append.2 ⟨hp, forall_mem_singleton.2 (hi c hc)⟩
  · intro d hd
    cases hd

/-- The request `q`, after the requests `qs`, ends with a report if the run pauses and has taken a word
since the report before; and the numbers it tells of are those of the matches handed out. The run
that it leaves starts to count anew past a report. -/
structure Settles (qs : List Request) (q : Request) (r : Run) : Prop where
  events : ∃ es, (∀ e ∈ es, e.tally? = none) ∧ q.reply.events = es ++
    if q.reply.acronym? = none then (Tally.of (qs ++ [q])).report else []
  pos : ∀ n ∈ foundsOf (qs ++ [q]), 0 < n
  ended : q.reply.acronym? = none →
    (foundsOf (qs ++ [q])).sum = (Tally.of (qs ++ [q])).acronyms ∧ r.current = none
  counted : Counted (if q.reports then [] else qs ++ [q]) [] r

theorem filterMap_found?_of_quiet {es : List Event} (h : ∀ e ∈ es, e.IsQuiet) :
    es.filterMap Event.found? = [] := filterMap_eq_nil_iff.2 fun e he => (h e he).1

@[simp] theorem filterMap_found?_report (t : Tally) : t.report.filterMap Event.found? = [] := by
  rw [Tally.report]
  split <;> rfl

theorem any_tally?_report (t : Tally) :
    t.report.any (·.tally?.isSome) = decide (t.candidates ≠ 0) := by
  rw [Tally.report]
  split
  · next h => simp [h]
  · next h => simp [h, Event.tally?]

theorem Counted.of_concat (h : Counted qs ns r) {q : Request} (hq : q.founds = ns) :
    Tally.of (qs ++ [q]) = { r.tally.pull q.taken with
      acronyms := r.tally.acronyms + if q.handsOut then 1 else 0 } := by
  rw [Tally.of_concat, hq, h.tally]
  rfl

theorem Counted.settles_of_pause (h : Counted qs ns r) (hc : r.current = none) {q : Request}
    (hq : q.founds = ns) (ha : q.reply.acronym? = none) {es : List Event}
    (hes : ∀ e ∈ es, e.tally? = none) (he : q.reply.events = es ++ (r.tally.pull q.taken).report)
    (hsc : s.current = none) (hst : s.tally = (r.tally.pull q.taken).reported) : Settles qs q s := by
  have hof : Tally.of (qs ++ [q]) = r.tally.pull q.taken := by
    rw [h.of_concat hq]
    simp [Request.handsOut, ha, Tally.pull]
  have hfs : foundsOf (qs ++ [q]) = foundsOf qs ++ ns := by rw [foundsOf_concat, hq]
  have hsum : (foundsOf (qs ++ [q])).sum = (Tally.of (qs ++ [q])).acronyms := by
    have hs := h.sum
    rw [hfs, hof, sum_append, Tally.pull, h.tally]
    simpa [foundInHand, hc] using hs
  have hpos : ∀ n ∈ foundsOf (qs ++ [q]), 0 < n := hfs ▸ h.pos
  have hr : q.reports = decide ((Tally.of (qs ++ [q])).candidates ≠ 0) := by
    have hn : es.any (·.tally?.isSome) = false := any_eq_false.2 fun e he => by simp [hes e he]
    rw [Request.reports, he, any_append, hn, any_tally?_report, hof, Bool.false_or]
  have hi : ∀ c, s.current = some c → 0 < c.found := fun c hc => by simp [hsc] at hc
  have hf : s.foundInHand = 0 := by simp [foundInHand, hsc]
  refine ⟨⟨es, hes, ?_⟩, hpos, fun _ => ⟨hsum, hsc⟩, ?_⟩
  · rw [he, if_pos ha, hof]
  · rw [← hof] at hst
    -- Past a report all counts are zero again. Without one nothing was taken, and they go on.
    by_cases hz : (Tally.of (qs ++ [q])).candidates = 0
    · rw [hr, if_neg (by simp [hz])]
      rw [Tally.reported, if_pos hz] at hst
      exact ⟨hst, by simp [hf, hsum], by simpa using hpos, hi⟩
    · rw [hr, if_pos (by simp [hz])]
      rw [Tally.reported, if_neg hz] at hst
      exact ⟨hst, by simpa [foundsOf, Tally.of] using hf, nofun, hi⟩

theorem Counted.settles_of_found (h : Counted qs ns r) {q : Request} {a : Acronym} (hq : q.founds = ns)
    (ha : q.reply.acronym? = some a) (hes : ∀ e ∈ q.reply.events, e.tally? = none)
    (hsf : s.foundInHand = r.foundInHand + 1)
    (hst : s.tally = { r.tally.pull q.taken with acronyms := r.tally.acronyms + 1 }) :
    Settles qs q s := by
  have hof : Tally.of (qs ++ [q]) = s.tally := by
    rw [h.of_concat hq, hst]
    simp [Request.handsOut, ha]
  have hfs : foundsOf (qs ++ [q]) = foundsOf qs ++ ns := by rw [foundsOf_concat, hq]
  have hpos : ∀ n ∈ foundsOf (qs ++ [q]), 0 < n := hfs ▸ h.pos
  have hr : q.reports = false := any_eq_false.2 fun e he => by simp [hes e he]
  have hsum : (foundsOf (qs ++ [q])).sum + s.foundInHand = (Tally.of (qs ++ [q])).acronyms := by
    have hs := h.sum
    have ht : r.tally.acronyms = (Tally.of qs).acronyms := by rw [h.tally]
    rw [hfs, hof, hst, sum_append]
    simp only
    omega
  refine ⟨⟨_, hes, ?_⟩, hpos, ?_, ?_⟩
  · rw [if_neg (by simp [ha]), append_nil]
  · intro hn
    rw [ha] at hn
    cases hn
  · rw [hr]
    refine ⟨hof.symm, by simpa using hsum, by simpa using hpos, ?_⟩
    intro c hc
    have hcf : s.foundInHand = c.found := by simp [foundInHand, hc]
    omega

theorem Counted.settles (h : Counted qs ns r) (hc : r.current = none)
    (hn : log.reverse.filterMap Event.found? = ns) (hl : ∀ e ∈ log, e.tally? = none)
    (hs : Sought r log ws (p, s)) : Settles qs ⟨ws, p⟩ s := by
  have hq (es : List Event) (hes : ∀ e ∈ es, e.IsQuiet) :
      (log.reverse ++ es).filterMap Event.found? = ns := by
    rw [filterMap_append, hn, filterMap_found?_of_quiet hes, append_nil]
  have ht (es : List Event) (hes : ∀ e ∈ es, e.IsQuiet) :
      ∀ e ∈ log.reverse ++ es, e.tally? = none := by
    intro e he
    exact (mem_append.1 he).elim (fun h => hl e (mem_reverse.1 h)) fun h => (hes e h).2
  cases hs with
  | paused es hes hsc hst =>
    refine h.settles_of_pause hc ?_ rfl (ht es hes) rfl hsc hst
    rw [Request.founds, filterMap_append, hq es hes, filterMap_found?_report, append_nil]
  | found a es hes hsc hst =>
    refine h.settles_of_found (hq es hes) rfl (ht es hes) ?_ hst
    simp [foundInHand, hsc, hc]

/-- A request is answered with a match of the word in hand, or a next match is looked for, once that
word is laid aside if there is one. -/
theorem next_cases (r : Run) : ∃ ws, r.left = ws ++ r.next.2.left ∧
    ((∃ c m more, r.current = some c ∧ ws = [] ∧
        r.next = (⟨some m.acronym, []⟩, r.handOut c.word (c.found + 1) m more)) ∨
      (∃ c, r.current = some c ∧ r.finish.Sought [.matched c.word c.found] ws r.next) ∨
      (r.current = none ∧ r.Sought [] ws r.next)) := by
  cases hc : r.current with
  | none =>
    have hr : r.next = r.seek [] (r.answers ()) := by rw [next, hc]
    obtain ⟨ws, hw, hs⟩ := exists_sought (r.answers ()) [] hc
    exact ⟨ws, hr ▸ hw, .inr (.inr ⟨rfl, hr ▸ hs⟩)⟩
  | some c =>
    cases hm : c.more () with
    | found m more =>
      have hr : r.next = (⟨some m.acronym, []⟩, r.handOut c.word (c.found + 1) m more) := by
        rw [next, hc]
        simp only [hm]
      exact ⟨[], by rw [hr]; rfl, .inl ⟨c, m, more, rfl, rfl, hr⟩⟩
    | done =>
      have hr : r.next = r.finish.seek [.matched c.word c.found] (r.answers ()) := by
        rw [next, hc]
        simp only [hm]
      obtain ⟨ws, hw, hs⟩ := exists_sought (r := r.finish) (r.answers ()) [.matched c.word c.found] rfl
      exact ⟨ws, hr ▸ hw, .inr (.inl ⟨c, rfl, hr ▸ hs⟩)⟩

theorem request_eq (h : r.left = ws ++ r.next.2.left) : r.request = ⟨ws, r.next.1⟩ := by
  rw [request, h, length_append, Nat.add_sub_cancel, take_left]

theorem left_eq_taken_append (r : Run) : r.left = r.request.taken ++ r.next.2.left := by
  obtain ⟨ws, hw, -⟩ := r.next_cases
  rw [request_eq hw]
  exact hw

theorem Counted.request (h : Counted qs [] r) : Settles qs r.request r.next.2 := by
  obtain ⟨ws, hw, ⟨c, m, more, hc, rfl, hr⟩ | ⟨c, hc, hs⟩ | ⟨hc, hs⟩⟩ := r.next_cases
  · rw [request_eq hw, hr]
    exact h.settles_of_found rfl rfl (forall_mem_nil _) (by simp [foundInHand, handOut, hc]) rfl
  · rw [request_eq hw]
    exact (h.finish hc).settles rfl rfl (forall_mem_singleton.2 rfl) hs
  · rw [request_eq hw]
    exact h.settles hc rfl (forall_mem_nil _) hs

/-- The requests since the last report, before request number `n`. -/
def unreported (r : Run) (n : Nat) : List Request := (r.requests n).rtakeWhile fun q => !q.reports

theorem Counted.after (h : Counted [] [] r) (n : Nat) : Counted (r.unreported n) [] (r.after n) := by
  induction n with
  | zero => exact h
  | succ n ih =>
    have hs := ih.request.counted
    rw [unreported, requests, rtakeWhile_concat, Run.after]
    cases hr : (r.after n).request.reports with
    | true => simpa [hr] using hs
    | false => simpa [hr, unreported] using hs

theorem left_eq_requests_append (r : Run) (n : Nat) :
    r.left = (r.requests n).flatMap Request.taken ++ (r.after n).left := by
  induction n with
  | zero => rfl
  | succ n ih =>
    rw [requests, flatMap_append, flatMap_singleton, append_assoc, Run.after, ← left_eq_taken_append]
    exact ih

/-- Let `q` be any request to a run, and `t` what is counted over the requests up to it since the last
report. A report comes only at the end of a reply. It comes if there is no acronym and a word was
taken since the last one, and it tells `t`. The numbers of matches told of are positive, and when
there is no acronym they add up to the acronyms handed out, and no word is in hand any more. All
answers of the stream are counted, each for the request that took it. -/
theorem reports_add_up (root : Pattern) (answers : Unit → Enumeration (Option String)) (m n : Nat) :
    let r := (ofAnswers root answers).atLeast m
    let q := (r.after n).request
    let qs := r.unreported n ++ [q]
    let t := Tally.of qs
    (∃ es, (∀ e ∈ es, e.tally? = none) ∧ q.reply.events =
        es ++ if q.reply.acronym? = none ∧ 0 < t.candidates then [.exhausted t] else []) ∧
      (∀ k ∈ foundsOf qs, 0 < k) ∧
      (q.reply.acronym? = none → (foundsOf qs).sum = t.acronyms ∧ (r.after (n+1)).current = none) ∧
      (answers ()).toList = (r.requests n).flatMap Request.taken ++ (r.after n).left := by
  intro r q qs t
  have hr : Counted [] [] r := ⟨rfl, rfl, nofun, nofun⟩
  obtain ⟨⟨es, hes, he⟩, hpos, hend, -⟩ := (hr.after n).request
  refine ⟨⟨es, hes, ?_⟩, hpos, hend, r.left_eq_requests_append n⟩
  have ht : (if q.reply.acronym? = none then t.report else []) =
      if q.reply.acronym? = none ∧ 0 < t.candidates then [.exhausted t] else [] := by
    rw [Tally.report]
    by_cases ha : q.reply.acronym? = none
    · by_cases hz : t.candidates = 0
      · simp [hz]
      · simp [ha, hz, Nat.pos_of_ne_zero hz]
    · simp [ha]
  rw [he, ← ht]

/-- The first pause is reported, the second has nothing to report, and the third counts the word that is
too short and the one that is guarded. -/
theorem reports_add_up_ax :
    let root := Pattern.group .allOf [.literal "an", .wildcard]
    let answers := fun _ : Unit => Enumeration.ofList
      [some "ax", none, none, some "b", some "Ax", some "aa", none]
    let r := (ofAnswers root answers).atLeast 0
    let qs := r.unreported 5 ++ [(r.after 5).request]
    (r.after 1).request.reply.events = [.matched "ax" 1, .exhausted ⟨1, 1, 1⟩] ∧
      (r.after 2).request.reply.events = [] ∧
      (r.after 5).request.reply.events = [.matched "aa" 2, .exhausted ⟨3, 1, 2⟩] ∧
      (∀ k ∈ foundsOf qs, 0 < k) ∧ (foundsOf qs).sum = (Tally.of qs).acronyms := by
  intro root answers r qs
  obtain ⟨-, hp, he, -⟩ := reports_add_up root answers 0 5
  refine ⟨by decide +kernel, by decide +kernel, ?_, hp, (he ?_).1⟩
  · decide +kernel
  · decide +kernel

end Run
end Initialism
