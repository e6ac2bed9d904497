import Initialism.Proofs.Pattern.Cover
import Initialism.Proofs.Pattern.Layout
import Initialism.Proofs.Text.SameLetters

/-! Where the carets under a fault stand. Faults are told by byte offsets, and the line of carets has
a blank for each byte in front of the first one. Reading stops at the first fault, and all that it
has come past until then is ASCII, so there are as many bytes as characters. -/
namespace Initialism
open List
open Text (isAscii)

theorem toNat_lt_of_isLegal {c : Char} (h : Token.isLegal c) : c.toNat < 0x80 := by
  simp only [Token.isLegal, Bool.or_eq_true, Option.isSome_iff_exists] at h
  rcases h with (h | h) | ⟨k, hk⟩
  · exact Text.toNat_lt_of_isAlpha h
  · simp only [Char.isWhitespace, Bool.or_eq_true, decide_eq_true_eq] at h
    rcases h with ((rfl | rfl) | rfl) | rfl <;> decide
  · have hk := Token.Kind.ofChar?_eq_some.1 hk
    cases k with
    | opening g => cases g <;> cases hk <;> decide
    | closing g => cases g <;> cases hk <;> decide
    | question => cases hk; decide
    | period => cases hk; decide
    | word => cases hk

theorem Symbol.Fits.isLegal {x : Symbol} (h : x.Fits) : ∀ c ∈ x.lexeme.toList, Token.isLegal c := by
  rw [Symbol.Fits] at h
  split at h
  · next d hd =>
    have hl : Token.isLegal d := by simp [Token.isLegal, Token.Kind.ofChar?_eq_some.2 hd]
    intro c hc
    obtain rfl : c = d := by simpa [h] using hc
    exact hl
  · intro c hc
    simp [Token.isLegal, h.2 c hc]

namespace Entry
variable {u v : String} {e : Entry} {us vs es : List Entry} {xs : List Symbol}

theorem Tiles.exists_before (h : Tiles u v es) (hes : es = us ++ e :: vs) (hu : Show us xs) :
    ∃ b a, v = b ++ e.text ++ a ∧ e.Between (u ++ b) a ∧ ∀ c ∈ b.toList, Token.isLegal c := by
  induction h generalizing us xs with
  | nil => simp at hes
  | @blank u v c es hc h ih =>
    obtain ⟨b, a, rfl, hb, hl⟩ := ih hes hu
    refine ⟨c.toString ++ b, a, ?_, ?_, ?_⟩
    · simp only [String.append_assoc]
    · rwa [← String.append_assoc]
    · have hlc : Token.isLegal c := by simp [Token.isLegal, hc]
      simpa [hlc] using hl
  | @entry u v e' es he h ih =>
    cases us with
    | nil =>
      obtain ⟨rfl, rfl⟩ := cons.inj hes
      refine ⟨"", v, (String.empty_append).symm, ?_, by simp⟩
      rwa [String.append_empty]
    | cons e'' us =>
      obtain ⟨rfl, rfl⟩ := cons.inj hes
      cases xs with
      | nil => cases hu
      | cons x xs =>
        obtain ⟨t, us, -, ht, hu⟩ := show_cons.1 hu
        obtain ⟨rfl, rfl⟩ := cons.inj ht
        obtain ⟨b, a, rfl, hb, hl⟩ := ih rfl hu
        have hf : t.symbol.Fits := he.fits
        refine ⟨t.lexeme ++ b, a, ?_, ?_, ?_⟩
        · simp only [text, String.append_assoc]
        · rwa [← String.append_assoc]
        · simpa [or_imp, forall_and] using ⟨hf.isLegal, hl⟩

end Entry

/-- A fault is at an entry with only tokens before it, or it is over the whole text. -/
theorem Fault.Alike.left {source source' : String} {f f' : Fault} (h : f.Alike source source' f') :
    (∃ us e vs xs, tokenize source = us ++ e :: vs ∧ Entry.Show us xs ∧ f.span = e.span) ∨
      f.span = ⟨0, source.utf8ByteSize⟩ := by
  cases h with
  | entry ha =>
    obtain ⟨us, vs, -, -, xs, hs, -, hu, -⟩ := ha
    exact .inl ⟨us, _, vs, xs, hs, hu, rfl⟩
  | whole => exact .inr rfl

namespace Pattern
variable {source : String} {f : Fault}

theorem exists_marked (h : parse source = .error f) : ∃ before marked after : String,
    source = before ++ marked ++ after ∧
      f.span = ⟨before.utf8ByteSize, before.utf8ByteSize + marked.utf8ByteSize⟩ ∧
      ∀ c ∈ before.toList, Token.isLegal c := by
  -- The text is matched with itself, so its fault is at one of its own entries.
  have hm := @parse_matched source source rfl
  rw [h] at hm
  cases hm with
  | error hf =>
    rcases hf.left with ⟨us, e, vs, xs, hs, hu, he⟩ | hw
    · have ht : Entry.Tiles "" source (tokenize source) := by
        simpa [tokenize] using @Entry.tiles_scan "" [] source.toList (by simp) (by simp)
      obtain ⟨b, a, hv, hb, hl⟩ := ht.exists_before hs hu
      rw [String.empty_append] at hb
      refine ⟨b, e.text, a, hv, ?_, hl⟩
      rw [he, ← hb.stop, ← hb.start]
    · exact ⟨"", source, "", by simp, by simpa using hw, by simp⟩

/-- A fault of an expression is over whole characters of it, and only ASCII stands in front of them. So
the first of the carets under it has as many blanks in front of it as there are characters in front of
the fault, though these blanks are counted by bytes. -/
theorem diagnostic_of_parse_error (h : parse source = .error f) : ∃ before marked after : String,
    source = before ++ marked ++ after ∧
      f.span = ⟨before.utf8ByteSize, (before ++ marked).utf8ByteSize⟩ ∧
      (∀ c ∈ before.toList, isAscii c) ∧
      ∃ carets, f.diagnostic source =
        source ++ "\n" ++ String.ofList (replicate before.length ' ' ++ '^' :: carets) := by
  obtain ⟨before, marked, after, hs, hf, hl⟩ := exists_marked h
  have hlt : ∀ c ∈ before.toList, c.toNat < 0x80 := fun c hc => toNat_lt_of_isLegal (hl c hc)
  have hlen : before.utf8ByteSize = before.length := by
    rw [← String.length_toList, ← Text.utf8ByteSize_ofList_of_lt hlt, String.ofList_toList]
  have hn : max 1 (f.span.stop - f.span.start) = (f.span.stop - f.span.start - 1) + 1 := by omega
  refine ⟨before, marked, after, hs, ?_, fun c hc => decide_eq_true (hlt c hc),
    replicate (f.span.stop - f.span.start - 1) '^', ?_⟩
  · rw [hf, String.utf8ByteSize_append]
  · have hstart : f.span.start = before.length := by rw [hf, ← hlen]
    rw [Fault.diagnostic, Span.underline, hn, hstart, String.append_assoc, ← String.ofList_append,
      replicate_succ]

theorem diagnostic_of_parse_error_unclosed :
    parse "[a (b] é" = .error ⟨.unclosedGroup .oneOf, ⟨3, 4⟩⟩ ∧
    ∃ before marked after : String, "[a (b] é" = before ++ marked ++ after ∧
      ⟨3, 4⟩ = Span.mk before.utf8ByteSize (before ++ marked).utf8ByteSize ∧
      (∀ c ∈ before.toList, isAscii c) ∧
      ∃ carets, Fault.diagnostic ⟨.unclosedGroup .oneOf, ⟨3, 4⟩⟩ "[a (b] é" =
        "[a (b] é" ++ "\n" ++ String.ofList (replicate before.length ' ' ++ '^' :: carets) := by
  have h : parse "[a (b] é" = .error ⟨.unclosedGroup .oneOf, ⟨3, 4⟩⟩ := by
    rw [parse_eq_outcome]
    rfl
  exact ⟨h, diagnostic_of_parse_error h⟩

end Pattern
end Initialism
