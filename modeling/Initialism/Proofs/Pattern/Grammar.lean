import Initialism.Proofs.Pattern.OnePass
import Initialism.Proofs.Pattern.Symbols

/-! Which texts are expressions. A reading stands for the symbols it has come past: each entry adds
its own, and the symbols of a pattern add that pattern. So a text is read just where its symbols are
those of some terms, and as these terms. -/
namespace Initialism
namespace Reading
open Entry (Show)
open Pattern (group isWellFormed areWellFormed symbolsOf)

variable {r r' : Reading} {t : Token} {p : Pattern} {ps : List Pattern} {es us : List Entry}

theorem run_append_of_ok (h : r.run es = .ok r') : r.run (es ++ us) = r'.run us := by
  induction es generalizing r with
  | nil =>
    obtain rfl := Except.ok.inj h
    rfl
  | cons e es ih =>
    rw [run] at h
    rw [List.cons_append, run]
    cases hs : r.step e with
    | error f => simp [hs] at h
    | ok s =>
      rw [hs] at h
      exact ih h

theorem run_token (h : r.token t = .ok r') : r.run [.token t] = .ok r' := by
  simp [run, step, h]

mutual
theorem run_of_show : ∀ {p : Pattern} {r : Reading} {es : List Entry}, p.isWellFormed →
    Show es p.symbols → r.run es = .ok (r.push p)
  | .literal w, r, es, _, h => by
    obtain ⟨t, rfl, hk, hl⟩ := Entry.show_singleton.1 h
    exact run_token (by simp [token, hk, hl])
  | .wildcard, r, es, _, h => by
    obtain ⟨t, rfl, hk, -⟩ := Entry.show_singleton.1 h
    exact run_token (by simp [token, hk])
  | .optional p, r, es, hp, h => by
    obtain ⟨us, vs, rfl, hu, hv⟩ := Entry.show_append.1 h
    obtain ⟨t, rfl, hk, -⟩ := Entry.show_singleton.1 hv
    have hp : p.isWellFormed := hp
    rw [run_append_of_ok (run_of_show hp hu)]
    exact run_token (by simp [token, hk, push])
  | .group g ps, r, es, hp, h => by
    obtain ⟨hn, hps⟩ : ps ≠ [] ∧ areWellFormed ps := by
      simpa [isWellFormed] using hp
    obtain ⟨t, us, ht, rfl, hu⟩ := Entry.show_cons.1 h
    obtain ⟨vs, ws, rfl, hv, hw⟩ := Entry.show_append.1 hu
    obtain ⟨t', rfl, hk', -⟩ := Entry.show_singleton.1 hw
    obtain ⟨hk, -⟩ := Symbol.mk.inj ht
    have ho : r.run [.token t] = .ok ⟨⟨g, t, r.terms⟩ :: r.frames, []⟩ :=
      run_token (by simp [token, hk])
    rw [← List.singleton_append, run_append_of_ok ho, run_append_of_ok (run_of_showOf hps hv)]
    exact run_token (by simp [token, hk', close, hn, push])
theorem run_of_showOf : ∀ {ps : List Pattern} {r : Reading} {es : List Entry},
    areWellFormed ps → Show es (symbolsOf ps) →
      r.run es = .ok { r with terms := ps.reverse ++ r.terms }
  | [], r, es, _, h => by
    obtain rfl := Entry.show_nil.1 h
    rfl
  | p :: ps, r, es, hp, h => by
    obtain ⟨hp, hps⟩ : p.isWellFormed ∧ areWellFormed ps := by
      simpa [areWellFormed] using hp
    obtain ⟨us, vs, rfl, hu, hv⟩ := Entry.show_append.1 h
    rw [run_append_of_ok (run_of_show hp hu), run_of_showOf hps hv]
    simp [push]
end

def symbolsOfFrames : List Frame → List Symbol
  | [] => []
  | x :: xs => symbolsOfFrames xs ++ x.before.reverse.flatMap Pattern.symbols ++
      [⟨.opening x.group, x.group.opening.toString⟩]

/-- The symbols that the reading has come past. -/
def symbols (r : Reading) : List Symbol :=
  symbolsOfFrames r.frames ++ r.terms.reverse.flatMap Pattern.symbols

structure Sound (r : Reading) : Prop where
  frames : ∀ x ∈ r.frames, ∀ p ∈ x.before, p.isWellFormed
  terms : ∀ p ∈ r.terms, p.isWellFormed

theorem Sound.push (h : r.Sound) (hp : p.isWellFormed) : (r.push p).Sound :=
  ⟨h.frames, List.forall_mem_cons.2 ⟨hp, h.terms⟩⟩

theorem symbols_push : (r.push p).symbols = r.symbols ++ p.symbols := by
  simp [symbols, Reading.push]

theorem Sound.close {g : Group} (h : r.Sound) (hr : r.close g t = .ok r') :
    r'.Sound ∧ r'.symbols = r.symbols ++ [⟨.closing g, g.closing.toString⟩] := by
  obtain ⟨fs, ps⟩ := r
  cases fs with
  | nil => cases hr
  | cons x fs =>
    obtain ⟨hx, hfs⟩ := List.forall_mem_cons.1 h.frames
    have hp : ∀ p ∈ ps, p.isWellFormed := h.terms
    simp only [Reading.close] at hr
    split at hr
    · next hg =>
      split at hr
      · cases hr
      · next hn =>
        obtain rfl := Except.ok.inj hr
        have hgroup : (group x.group ps.reverse).isWellFormed := by
          simpa [isWellFormed, hn] using hp
        refine ⟨⟨hfs, List.forall_mem_cons.2 ⟨hgroup, hx⟩⟩, ?_⟩
        simp [symbols, symbolsOfFrames, Pattern.symbols, hg]
    · cases hr

theorem Sound.token (h : r.Sound) (hx : t.symbol.Fits) (ht : r.token t = .ok r') :
    r'.Sound ∧ r'.symbols = r.symbols ++ [t.symbol] := by
  obtain ⟨fs, ps⟩ := r
  obtain ⟨k, l, pos⟩ := t
  -- Of all kinds but words `hx` says which lexeme it is, so the token and its symbol agree.
  cases k with
  | opening g =>
    obtain rfl := Except.ok.inj ht
    obtain rfl : l = g.opening.toString := hx
    refine ⟨⟨List.forall_mem_cons.2 ⟨h.terms, h.frames⟩, by simp⟩, ?_⟩
    simp [symbols, symbolsOfFrames, Token.symbol]
  | closing g =>
    obtain rfl : l = g.closing.toString := hx
    exact h.close ht
  | question =>
    obtain rfl : l = "?" := hx
    cases ps with
    | nil => cases ht
    | cons p ps =>
      obtain rfl := Except.ok.inj ht
      obtain ⟨hp, hps⟩ := List.forall_mem_cons.1 h.terms
      refine ⟨⟨h.frames, List.forall_mem_cons.2 ⟨hp, hps⟩⟩, ?_⟩
      simp [symbols, Pattern.symbols, Token.symbol]
  | period =>
    obtain rfl := Except.ok.inj ht
    obtain rfl : l = "." := hx
    exact ⟨h.push rfl, symbols_push⟩
  | word =>
    obtain rfl := Except.ok.inj ht
    have hl : l ≠ "" ∧ ∀ c ∈ l.toList, c.isAlpha := hx
    exact ⟨h.push (by simpa [isWellFormed] using hl), symbols_push⟩

theorem Sound.run (h : r.Sound) (hes : ∀ e ∈ es, ∀ x, e.symbol? = some x → x.Fits)
    (hr : r.run es = .ok r') : r'.Sound ∧ ∃ xs, Show es xs ∧ r'.symbols = r.symbols ++ xs := by
  induction es generalizing r with
  | nil =>
    obtain rfl := Except.ok.inj hr
    exact ⟨h, [], rfl, (List.append_nil _).symm⟩
  | cons e es ih =>
    obtain ⟨he, hrest⟩ := List.forall_mem_cons.1 hes
    rw [Reading.run] at hr
    cases e with
    | illegal c pos => cases hr
    | token t =>
      cases hs : r.step (.token t) with
      | error f => simp [hs] at hr
      | ok s =>
        rw [hs] at hr
        obtain ⟨ht, htx⟩ := h.token (he t.symbol rfl) hs
        obtain ⟨hr', xs, hxs, hx⟩ := ih ht hrest hr
        refine ⟨hr', t.symbol :: xs, Entry.show_cons.2 ⟨t, es, rfl, rfl, hxs⟩, ?_⟩
        rw [hx, htx, List.append_assoc, List.singleton_append]

end Reading

namespace Pattern
open Entry (Show)
open Reading (start)

/-- The pattern that terms at the top are: a single one stands for itself. -/
def joined : List Pattern → Pattern
  | [p] => p
  | ps => .group .anySubset ps

def symbolsIn (source : String) : List Symbol := (tokenize source).filterMap Entry.symbol?

structure IsWrittenAs (source : String) (ts : List Pattern) : Prop where
  ne_nil : ts ≠ []
  wellFormed : ∀ t ∈ ts, t.isWellFormed
  symbols_eq : symbolsIn source = ts.flatMap symbols

variable {ts us : List Pattern} {es : List Entry} {source : String}

theorem run_start_of_show (hw : ∀ t ∈ ts, t.isWellFormed) (h : Show es (ts.flatMap symbols)) :
    start.run es = .ok ⟨[], ts.reverse⟩ := by
  have hw : areWellFormed ts := by simpa using hw
  have h : Show es (symbolsOf ts) := by simpa using h
  simpa [start] using Reading.run_of_showOf (r := start) hw h

theorem eq_of_flatMap_symbols_eq (ht : ∀ t ∈ ts, t.isWellFormed) (hu : ∀ t ∈ us, t.isWellFormed)
    (h : ts.flatMap symbols = us.flatMap symbols) : ts = us := by
  -- One row of tokens has these symbols, wherever they stand, and is read as both rows of terms.
  let es : List Entry := (ts.flatMap symbols).map fun x => .token ⟨x.kind, x.lexeme, 0⟩
  have hes : Show es (ts.flatMap symbols) := by
    simp only [Show, es, List.map_map]
    rfl
  have h₁ := run_start_of_show ht hes
  have h₂ := run_start_of_show hu (h ▸ hes)
  have hr : ts.reverse = us.reverse := by simpa [h₁] using h₂
  exact List.reverse_inj.1 hr

theorem finish_reverse_of_ne_nil (h : ts ≠ []) (size : Nat) :
    Reading.finish ⟨[], ts.reverse⟩ size = .ok (joined ts) := by
  rw [Reading.finish_reverse]
  match ts with
  | [p] => rfl
  | p :: p' :: ts => rfl

theorem terms_of_finish {r : Reading} {size : Nat} {p : Pattern} (h : r.finish size = .ok p) :
    r.frames = [] ∧ r.terms.reverse ≠ [] ∧ p = joined r.terms.reverse := by
  obtain ⟨fs, ps⟩ := r
  cases fs with
  | cons x fs => cases h
  | nil =>
    have hps : ps ≠ [] := by
      intro h
      subst h
      cases h
    have hr : ps.reverse ≠ [] := by simpa using hps
    have hf := finish_reverse_of_ne_nil hr size
    rw [List.reverse_reverse] at hf
    exact ⟨rfl, hr, Except.ok.inj (h.symm.trans hf)⟩

theorem fits_of_mem_tokenize {e : Entry} (he : e ∈ tokenize source) {x : Symbol}
    (hx : e.symbol? = some x) : x.Fits :=
  Entry.fits_of_mem_scan (by simp) he hx

theorem exists_isWrittenAs_of_parse {p : Pattern} (h : parse source = .ok p) :
    ∃ ts, Show (tokenize source) (ts.flatMap symbols) ∧ IsWrittenAs source ts ∧ p = joined ts := by
  rw [parse_eq_outcome, Reading.outcome] at h
  cases hr : start.run (tokenize source) with
  | error f => simp [hr] at h
  | ok r =>
    rw [hr] at h
    obtain ⟨hf, hn, hp⟩ := terms_of_finish h
    have hs : start.Sound := ⟨by simp [start], by simp [start]⟩
    obtain ⟨hrs, xs, hxs, hx⟩ := hs.run (fun e he x hx => fits_of_mem_tokenize he hx) hr
    obtain rfl : xs = r.terms.reverse.flatMap symbols := by
      simpa [Reading.symbols, Reading.symbolsOfFrames, start, hf] using hx.symm
    refine ⟨r.terms.reverse, hxs, ⟨hn, fun t ht => ?_, (Entry.show_iff.1 hxs).2⟩, hp⟩
    exact hrs.terms t (List.mem_reverse.1 ht)

theorem parse_of_show (hn : ts ≠ []) (hw : ∀ t ∈ ts, t.isWellFormed)
    (h : Show (tokenize source) (ts.flatMap symbols)) : parse source = .ok (joined ts) := by
  rw [parse_eq_outcome, Reading.outcome, run_start_of_show hw h]
  exact finish_reverse_of_ne_nil hn _

theorem symbol?_tokenize_isSome_iff :
    (∀ e ∈ tokenize source, e.symbol?.isSome) ↔ ∀ c ∈ source.toList, Token.isLegal c :=
  Entry.symbol?_scan_isSome_iff

/-- A text is an expression if and only if all its characters may stand in one and it is written
as a row of terms; it is read as these, and there is one such row at most. -/
theorem parse_eq_ok_iff (source : String) :
    (∀ p, parse source = .ok p ↔ (∀ c ∈ source.toList, Token.isLegal c) ∧
      ∃ ts, IsWrittenAs source ts ∧ p = joined ts) ∧
    ∀ ts us, IsWrittenAs source ts → IsWrittenAs source us → ts = us := by
  refine ⟨fun p => ⟨fun h => ?_, ?_⟩, fun ts us ht hu => ?_⟩
  · obtain ⟨ts, hs, ht, hp⟩ := exists_isWrittenAs_of_parse h
    exact ⟨symbol?_tokenize_isSome_iff.1 (Entry.show_iff.1 hs).1, ts, ht, hp⟩
  · intro h
    obtain ⟨hl, ts, ht, rfl⟩ := h
    have hs : Show (tokenize source) (ts.flatMap symbols) :=
      Entry.show_iff.2 ⟨symbol?_tokenize_isSome_iff.2 hl, ht.symbols_eq⟩
    exact parse_of_show ht.ne_nil ht.wellFormed hs
  · refine eq_of_flatMap_symbols_eq ht.wellFormed hu.wellFormed ?_
    rw [← ht.symbols_eq, hu.symbols_eq]

end Pattern
end Initialism
