import Initialism.Proofs.Pattern.Symbols
import Initialism.Text.Utf8

/-! How a text falls into its entries. The entries stand in it one behind the other, each over the
bytes of its own characters, and words end only where their letters do. What is left between them
is blank. -/
namespace Initialism

namespace Entry

def text : Entry → String
  | token t => t.lexeme
  | illegal c _ => c.toString

/-- The entry is one that can stand between these texts: a token with a lexeme of its kind, which
does not go on on either side if it is a word, or a character that may not stand anywhere. -/
structure Between (before after : String) (e : Entry) : Prop where
  start : e.span.start = before.utf8ByteSize
  stop : e.span.stop = before.utf8ByteSize + e.text.utf8ByteSize
  fits : match e with
    | token t => t.symbol.Fits
    | illegal c _ => ¬ Token.isLegal c
  maximal : ∀ t, e = token t → t.kind = .word →
    (∀ c ∈ before.toList.getLast?, ¬ c.isAlpha) ∧ ∀ c ∈ after.toList.head?, ¬ c.isAlpha

def BlankAt (source : String) (k : Nat) : Prop :=
  ∃ (before : String) (c : Char) (after : String), source = before ++ c.toString ++ after ∧
    c.isWhitespace ∧ before.utf8ByteSize ≤ k ∧ k < before.utf8ByteSize + c.utf8Size

def Contains (e : Entry) (k : Nat) : Prop := e.span.start ≤ k ∧ k < e.span.stop

structure Cover (source : String) (es : List Entry) : Prop where
  ordered : es.Pairwise fun e f => e.span.stop ≤ f.span.start
  inside : ∀ e ∈ es, e.span.start < e.span.stop ∧ e.span.stop ≤ source.utf8ByteSize
  cut : ∀ e ∈ es, ∃ before after, source = before ++ e.text ++ after ∧ e.Between before after
  rest : ∀ k < source.utf8ByteSize, (∀ e ∈ es, ¬ e.Contains k) → BlankAt source k

/-- Behind the text `u`, the text `v` consists of the entries `es` and of blanks. -/
inductive Tiles : String → String → List Entry → Prop where
  | nil (u : String) : Tiles u "" []
  | blank {u v : String} {c : Char} {es : List Entry} (hc : c.isWhitespace)
      (h : Tiles (u ++ c.toString) v es) : Tiles u (c.toString ++ v) es
  | entry {u v : String} {e : Entry} {es : List Entry} (he : e.Between u v)
      (h : Tiles (u ++ e.text) v es) : Tiles u (e.text ++ v) (e :: es)

theorem stop_span (e : Entry) : e.span.stop = e.span.start + e.text.utf8ByteSize := by
  cases e with
  | token t => rfl
  | illegal c p => simp [span, text]

variable {u v : String} {e : Entry} {es : List Entry} {w cs : List Char} {c : Char}

theorem Between.text_ne (h : e.Between u v) : e.text ≠ "" := by
  cases e with
  | illegal c p => simp [text]
  | token t =>
    have hf : t.symbol.Fits := h.fits
    cases hk : t.kind.char? with
    | none =>
      have hf : t.lexeme ≠ "" ∧ ∀ c ∈ t.lexeme.toList, c.isAlpha := by
        simpa [Symbol.Fits, Token.symbol, hk] using hf
      exact hf.1
    | some c =>
      have hf : t.lexeme = c.toString := by simpa [Symbol.Fits, Token.symbol, hk] using hf
      simp [text, hf]

theorem Tiles.ofChar (hc : ¬ c.isAlpha) (h : Tiles (u ++ c.toString) v es) :
    Tiles u (c.toString ++ v) ((ofChar? u.utf8ByteSize c).toList ++ es) := by
  cases ho : ofChar? u.utf8ByteSize c with
  | none => exact .blank (isWhitespace_of_ofChar?_none ho) h
  | some e =>
    obtain ⟨hb, ⟨hk, rfl⟩ | ⟨k, hk, rfl⟩⟩ := ofChar?_cases ho
    · have hl : ¬ Token.isLegal c := by simp [Token.isLegal, hc, hb, hk]
      refine Tiles.entry (e := .illegal c _) ⟨rfl, stop_span _, hl, ?_⟩ h
      intro t ht
      cases ht
    · have hk : k.char? = some c := Token.Kind.ofChar?_eq_some.1 hk
      refine Tiles.entry (e := .token ⟨k, c.toString, u.utf8ByteSize⟩) ⟨rfl, stop_span _, ?_, ?_⟩ h
      · simp [Symbol.Fits, Token.symbol, hk]
      · intro t ht hw
        cases ht
        subst hw
        cases hk

theorem Tiles.ofWord (hw : ∀ c ∈ w, c.isAlpha) (hu : ∀ c ∈ u.toList.getLast?, ¬ c.isAlpha)
    (hv : ∀ c ∈ v.toList.head?, ¬ c.isAlpha) (h : Tiles (u ++ String.ofList w.reverse) v es) :
    Tiles u (String.ofList w.reverse ++ v)
      ((word? (u.utf8ByteSize + w.length) w).toList ++ es) := by
  cases w with
  | nil => simpa [word?] using h
  | cons c w =>
    have hword : word? (u.utf8ByteSize + (c :: w).length) (c :: w) =
        some (.token ⟨.word, String.ofList (c :: w).reverse, u.utf8ByteSize⟩) := by
      simp [word?]
    rw [hword]
    refine Tiles.entry (e := .token ⟨.word, String.ofList (c :: w).reverse, u.utf8ByteSize⟩)
      ⟨rfl, stop_span _, ?_, fun _ _ _ => ⟨hu, hv⟩⟩ h
    simpa [Symbol.Fits, Token.symbol, Token.Kind.char?, or_imp, forall_and, and_comm] using hw

theorem tiles_scan (hw : ∀ c ∈ w, c.isAlpha) (hu : ∀ c ∈ u.toList.getLast?, ¬ c.isAlpha) :
    Tiles u (String.ofList w.reverse ++ String.ofList cs)
      (scan (u.utf8ByteSize + w.length) w cs) := by
  induction cs generalizing u w with
  | nil => simpa [scan] using Tiles.ofWord hw hu (by simp) (Tiles.nil _)
  | cons c cs ih =>
    rw [scan]
    by_cases hc : c.isAlpha
    · have h := ih (u := u) (List.forall_mem_cons.2 ⟨hc, hw⟩) hu
      have hr : String.ofList (c :: w).reverse ++ String.ofList cs =
          String.ofList w.reverse ++ String.ofList (c :: cs) := by
        rw [← String.ofList_append, ← String.ofList_append, List.reverse_cons, List.append_assoc]
        rfl
      rw [if_pos hc, ← hr]
      exact h
    · -- The word ends before `c`, and the tiling goes on with no letters read.
      have hword : (u ++ String.ofList w.reverse).utf8ByteSize = u.utf8ByteSize + w.length := by
        have hr : ∀ c ∈ w.reverse, c.isAlpha := fun c h => hw c (List.mem_reverse.1 h)
        rw [String.utf8ByteSize_append, Text.utf8ByteSize_ofList_of_lt fun c h =>
          Text.toNat_lt_of_isAlpha (hr c h), List.length_reverse]
      have h := ih (u := u ++ String.ofList w.reverse ++ c.toString) (w := []) (by simp)
        (by simpa using hc)
      have hs : (u ++ String.ofList w.reverse ++ c.toString).utf8ByteSize =
          u.utf8ByteSize + w.length + c.utf8Size := by
        rw [String.utf8ByteSize_append, hword]
        simp
      have hm := Tiles.ofChar hc h
      rw [hs, hword] at hm
      have ht := Tiles.ofWord hw hu (by simpa using hc) hm
      rw [if_neg hc, List.append_assoc]
      simpa using ht

namespace Tiles

theorem le_start (h : Tiles u v es) : ∀ e ∈ es, u.utf8ByteSize ≤ e.span.start := by
  induction h with
  | nil => simp
  | blank _ _ ih =>
    intro e he
    have hs := ih e he
    rw [String.utf8ByteSize_append] at hs
    omega
  | @entry u v e es he _ ih =>
    refine List.forall_mem_cons.2 ⟨Nat.le_of_eq he.start.symm, ?_⟩
    intro f hf
    have hs := ih f hf
    rw [String.utf8ByteSize_append] at hs
    omega

theorem ordered (h : Tiles u v es) : es.Pairwise fun e f => e.span.stop ≤ f.span.start := by
  induction h with
  | nil => exact .nil
  | blank _ _ ih => exact ih
  | entry he h ih =>
    refine List.pairwise_cons.2 ⟨?_, ih⟩
    intro f hf
    rw [he.stop, ← String.utf8ByteSize_append]
    exact h.le_start f hf

theorem cut (h : Tiles u v es) : ∀ e ∈ es, ∃ before after,
    u ++ v = before ++ e.text ++ after ∧ e.Between before after := by
  induction h with
  | nil => simp
  | blank _ _ ih =>
    intro e he
    rw [← String.append_assoc]
    exact ih e he
  | @entry u v e es he _ ih =>
    rw [← String.append_assoc]
    exact List.forall_mem_cons.2 ⟨⟨u, v, rfl, he⟩, ih⟩

theorem rest (h : Tiles u v es) {k : Nat} (hu : u.utf8ByteSize ≤ k)
    (hk : k < (u ++ v).utf8ByteSize) (hes : ∀ e ∈ es, ¬ e.Contains k) : BlankAt (u ++ v) k := by
  induction h with
  | nil u =>
    rw [String.append_empty] at hk
    omega
  | @blank u v c es hc _ ih =>
    rw [← String.append_assoc] at hk ⊢
    have hs : (u ++ c.toString).utf8ByteSize = u.utf8ByteSize + c.utf8Size := by simp
    by_cases hkc : k < u.utf8ByteSize + c.utf8Size
    · exact ⟨u, c, v, rfl, hc, hu, hkc⟩
    · exact ih (by omega) hk hes
  | @entry u v e es he _ ih =>
    obtain ⟨hke, hes⟩ := List.forall_mem_cons.1 hes
    rw [← String.append_assoc] at hk ⊢
    have hstop : e.span.stop ≤ k := by
      apply Nat.le_of_not_lt
      intro hlt
      exact hke ⟨he.start ▸ hu, hlt⟩
    rw [he.stop, ← String.utf8ByteSize_append] at hstop
    exact ih hstop hk hes

end Tiles

/-- The entries of a text cover it. -/
theorem tokenize_covers (source : String) : Cover source (tokenize source) := by
  have ht : Tiles "" source (tokenize source) := by
    simpa [tokenize] using @tiles_scan "" [] source.toList (by simp) (by simp)
  have hcut : ∀ e ∈ tokenize source, ∃ before after,
      source = before ++ e.text ++ after ∧ e.Between before after := by
    simpa using ht.cut
  refine ⟨ht.ordered, ?_, hcut, ?_⟩
  · intro e he
    obtain ⟨before, after, hs, hb⟩ := hcut e he
    have hne : e.text.utf8ByteSize ≠ 0 := by simpa using hb.text_ne
    have hstop := hb.stop
    have hsize := congrArg String.utf8ByteSize hs
    rw [String.utf8ByteSize_append, String.utf8ByteSize_append] at hsize
    rw [hb.start]
    omega
  · intro k hk hes
    simpa using ht.rest (Nat.zero_le k) (by simpa using hk) hes

example : (tokenize " é<Is?").map Entry.span = [⟨1, 3⟩, ⟨3, 4⟩, ⟨4, 6⟩, ⟨6, 7⟩] := by decide

end Entry
end Initialism
