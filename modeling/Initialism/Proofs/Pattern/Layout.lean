import Mathlib.Data.List.Forall2
import Initialism.Proofs.Pattern.Grammar

/-! What reading goes by. Two texts with the same tokens and the same illegal characters in a row are
read alike, wherever these stand in them: the readings go through the same steps, and the brackets
that they keep are at the same places of the two rows. So they come to the same pattern, or to the
same fault at the same entry. -/
namespace Initialism
open List

namespace Entry

def bare : Entry → Symbol ⊕ Char
  | token t => .inl t.symbol
  | illegal c _ => .inr c

/-- The entries have the same place in the two texts, with the same tokens before them and nothing
else. -/
def Abreast (source source' : String) (e e' : Entry) : Prop :=
  ∃ us vs us' vs' xs, tokenize source = us ++ e :: vs ∧ tokenize source' = us' ++ e' :: vs' ∧
    Show us xs ∧ Show us' xs

theorem Abreast.exists_index {source source' : String} {e e' : Entry}
    (h : Abreast source source' e e') :
    ∃ i : Nat, (tokenize source)[i]? = some e ∧ (tokenize source')[i]? = some e' := by
  obtain ⟨us, vs, us', vs', xs, hs, hs', hu, hu'⟩ := h
  have hl : us.length = us'.length := by
    have hm := congrArg length (hu.trans hu'.symm)
    rwa [length_map, length_map] at hm
  refine ⟨us.length, ?_, ?_⟩
  · rw [hs, getElem?_append_right (Nat.le_refl _), Nat.sub_self, getElem?_cons_zero]
  · rw [hs', hl, getElem?_append_right (Nat.le_refl _), Nat.sub_self, getElem?_cons_zero]

end Entry

open Entry (Abreast Show bare)
variable {source source' : String}

/-- Faults of one cause at entries abreast of each other, or else over the whole of texts that have no
entries. -/
inductive Fault.Alike (source source' : String) : Fault → Fault → Prop where
  | entry {c : Cause} {e e' : Entry} (h : Abreast source source' e e') :
      Alike source source' ⟨c, e.span⟩ ⟨c, e'.span⟩
  | whole (h : tokenize source = []) (h' : tokenize source' = []) :
      Alike source source' ⟨.emptyExpression, ⟨0, source.utf8ByteSize⟩⟩
        ⟨.emptyExpression, ⟨0, source'.utf8ByteSize⟩⟩

inductive Matched {α : Type} (source source' : String) (R : α → α → Prop) :
    Except Fault α → Except Fault α → Prop where
  | ok {a a' : α} (h : R a a') : Matched source source' R (.ok a) (.ok a')
  | error {f f' : Fault} (h : f.Alike source source' f') :
      Matched source source' R (.error f) (.error f')

theorem Matched.fault {α : Type} {R : α → α → Prop} {c : Fault.Cause} {e e' : Entry}
    (h : Abreast source source' e e') :
    Matched source source' R (.error ⟨c, e.span⟩) (.error ⟨c, e'.span⟩) :=
  .error (.entry h)

structure Frame.Alike (source source' : String) (x x' : Frame) : Prop where
  group : x.group = x'.group
  before : x.before = x'.before
  opening : Abreast source source' (.token x.opening) (.token x'.opening)

namespace Reading

structure Alike (source source' : String) (r r' : Reading) : Prop where
  frames : Forall₂ (Frame.Alike source source') r.frames r'.frames
  terms : r.terms = r'.terms

variable {r r' : Reading} {e e' : Entry} {us us' es es' : List Entry} {xs : List Symbol} {t t' : Token}
  {g : Group} {p : Pattern}

theorem Alike.push (h : r.Alike source source' r') (p : Pattern) :
    (r.push p).Alike source source' (r'.push p) :=
  ⟨h.frames, congrArg (p :: ·) h.terms⟩

theorem Alike.close (h : r.Alike source source' r') (ht : Abreast source source' (.token t) (.token t'))
    (hl : t.lexeme = t'.lexeme) :
    Matched source source' (Alike source source') (r.close g t) (r'.close g t') := by
  obtain ⟨fs, ps⟩ := r
  obtain ⟨fs', ps'⟩ := r'
  obtain ⟨hf, rfl⟩ : Forall₂ (Frame.Alike source source') fs fs' ∧ ps = ps' := ⟨h.frames, h.terms⟩
  cases hf with
  | nil =>
    have hi : t.initial = t'.initial := by rw [Token.initial, Token.initial, hl]
    rw [Reading.close, Reading.close, hi]
    exact .fault ht
  | @cons x x' fs fs' hx hfs =>
    simp only [Reading.close, ← hx.group, ← hx.before]
    split
    · split
      · exact .fault hx.opening
      · exact .ok ⟨hfs, rfl⟩
    · simp only [Frame.unclosed, ← hx.group]
      exact .fault hx.opening

theorem Alike.step (h : r.Alike source source' r') (he : Abreast source source' e e')
    (hb : e.bare = e'.bare) :
    Matched source source' (Alike source source') (r.step e) (r'.step e') := by
  match e, e' with
  | .illegal c p, .illegal c' p' =>
    obtain rfl : c = c' := Sum.inr.inj hb
    exact .fault he
  | .token t, .token t' =>
    obtain ⟨hk, hl⟩ := Symbol.mk.inj (Sum.inl.inj hb)
    rw [Reading.step, Reading.step, Reading.token, Reading.token, ← hk, ← hl]
    cases t.kind with
    | opening g => exact .ok ⟨.cons ⟨rfl, h.terms, he⟩ h.frames, rfl⟩
    | closing g => exact h.close he hl
    | question =>
      rw [← h.terms]
      cases r.terms with
      | nil => exact .fault he
      | cons p ps => exact .ok ⟨h.frames, rfl⟩
    | period => exact .ok (h.push _)
    | word => exact .ok (h.push _)

theorem Alike.run (h : r.Alike source source' r') (hs : tokenize source = us ++ es)
    (hs' : tokenize source' = us' ++ es') (hu : Show us xs) (hu' : Show us' xs)
    (hb : es.map bare = es'.map bare) :
    Matched source source' (Alike source source') (r.run es) (r'.run es') := by
  induction es generalizing r r' us us' xs es' with
  | nil =>
    obtain rfl : es' = [] := by simpa using hb.symm
    exact .ok h
  | cons e es ih =>
    obtain ⟨e', es', rfl, he, hes⟩ := map_eq_cons_iff.1 hb.symm
    have ha : Abreast source source' e e' := ⟨us, es, us', es', xs, hs, hs', hu, hu'⟩
    have hst := h.step ha he.symm
    rw [Reading.run, Reading.run]
    generalize hq : r.step e = q at hst ⊢
    generalize r'.step e' = q' at hst ⊢
    cases hst with
    | error hf => exact .error hf
    | ok hr =>
      -- A step comes to something at a token only, so the rows go on with one token more.
      cases e with
      | illegal c p => cases hq
      | token t =>
        cases e' with
        | illegal c p => cases he
        | token t' =>
          have hx : t.symbol = t'.symbol := (Sum.inl.inj he).symm
          have ht : Show (us ++ [.token t]) (xs ++ [t.symbol]) := by simpa [Show] using hu
          have ht' : Show (us' ++ [.token t']) (xs ++ [t.symbol]) := by simpa [Show, hx] using hu'
          refine ih hr ?_ ?_ ht ht' hes.symm
          · rw [hs, append_assoc, singleton_append]
          · rw [hs', append_assoc, singleton_append]

theorem eq_nil_of_run_start {source : String} (h : start.run (tokenize source) = .ok r)
    (hf : r.frames = []) (ht : r.terms = []) : tokenize source = [] := by
  have hs : start.Sound := ⟨by simp [start], by simp [start]⟩
  obtain ⟨-, xs, hxs, hx⟩ := hs.run (fun e he x hx => Pattern.fits_of_mem_tokenize he hx) h
  have hn : xs = [] := by
    simpa [symbols, symbolsOfFrames, start, hf, ht] using hx.symm
  exact Entry.show_nil.1 (hn ▸ hxs)

theorem Alike.finish (h : r.Alike source source' r') (hr : start.run (tokenize source) = .ok r)
    (hr' : start.run (tokenize source') = .ok r') :
    Matched source source' (· = ·) (r.finish source.utf8ByteSize) (r'.finish source'.utf8ByteSize) := by
  obtain ⟨fs, ps⟩ := r
  obtain ⟨fs', ps'⟩ := r'
  obtain ⟨hf, rfl⟩ : Forall₂ (Frame.Alike source source') fs fs' ∧ ps = ps' := ⟨h.frames, h.terms⟩
  cases hf with
  | cons hx _ =>
    simp only [Reading.finish, Frame.unclosed, ← hx.group]
    exact .fault hx.opening
  | nil =>
    match ps with
    | [] =>
      exact .error (.whole (eq_nil_of_run_start hr rfl rfl) (eq_nil_of_run_start hr' rfl rfl))
    | [p] => exact .ok rfl
    | p :: p' :: ps => exact .ok rfl

end Reading

namespace Pattern
open Reading (start)

theorem parse_matched (h : (tokenize source).map bare = (tokenize source').map bare) :
    Matched source source' (· = ·) (parse source) (parse source') := by
  have hstart : start.Alike source source' start := ⟨.nil, rfl⟩
  have hrun : Matched source source' (Reading.Alike source source') (start.run (tokenize source))
      (start.run (tokenize source')) :=
    hstart.run (nil_append _).symm (nil_append _).symm (Entry.show_nil.2 rfl) (Entry.show_nil.2 rfl) h
  rw [parse_eq_outcome, parse_eq_outcome, Reading.outcome, Reading.outcome]
  generalize hq : start.run (tokenize source) = q at hrun ⊢
  generalize hq' : start.run (tokenize source') = q' at hrun ⊢
  cases hrun with
  | error hf => exact .error hf
  | ok hr => exact hr.finish hq hq'

/-- What two texts come to, if it goes by their entries and not by where these stand. -/
inductive ReadAlike (source source' : String) : Prop where
  | read {p : Pattern} (h : parse source = .ok p) (h' : parse source' = .ok p)
  | faulty {c : Fault.Cause} {i : Nat} {e e' : Entry} (hi : (tokenize source)[i]? = some e)
      (hi' : (tokenize source')[i]? = some e') (h : parse source = .error ⟨c, e.span⟩)
      (h' : parse source' = .error ⟨c, e'.span⟩)
  | blank (he : tokenize source = []) (he' : tokenize source' = [])
      (h : parse source = .error ⟨.emptyExpression, ⟨0, source.utf8ByteSize⟩⟩)
      (h' : parse source' = .error ⟨.emptyExpression, ⟨0, source'.utf8ByteSize⟩⟩)

/-- Texts with the same tokens and illegal characters in a row are read alike. -/
theorem readAlike_of_bare_eq (h : (tokenize source).map bare = (tokenize source').map bare) :
    ReadAlike source source' := by
  have hm := parse_matched h
  generalize hq : parse source = q at hm
  generalize hq' : parse source' = q' at hm
  cases hm with
  | ok hp => exact .read hq (hp ▸ hq')
  | error hf =>
    cases hf with
    | entry ha =>
      obtain ⟨i, hi, hi'⟩ := ha.exists_index
      exact .faulty hi hi' hq hq'
    | whole he he' => exact .blank he he' hq hq'

theorem readAlike_of_bare_eq_unclosed :
    (tokenize "a [b\n<c )").map bare = (tokenize "a[b<c)").map bare ∧
      ReadAlike "a [b\n<c )" "a[b<c)" := by
  have h : (tokenize "a [b\n<c )").map bare = (tokenize "a[b<c)").map bare := by decide
  exact ⟨h, readAlike_of_bare_eq h⟩

end Pattern
end Initialism
