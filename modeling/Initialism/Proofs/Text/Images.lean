import Initialism.Proofs.Text.SameLetters

/-! What the case tables map characters to. Of the characters past ASCII, only the Kelvin sign is
the same letter as one in it. -/
namespace Initialism.Text
open List

theorem mapped_cases (long : List (Nat × List Nat)) (rows : List CaseRow) (c : Char) :
    (∃ ns, (c.toNat, ns) ∈ long ∧ mapped long rows c = ns.map Char.ofNat) ∨
    (∃ r ∈ rows, r.first ≤ c.toNat ∧ c.toNat ≤ r.last ∧
      mapped long rows c = [Char.ofNat (r.image + (c.toNat - r.first))]) ∨
    mapped long rows c = [c] := by
  rw [mapped]
  cases hl : long.lookup c.toNat with
  | some ns =>
    obtain ⟨l, l', rfl, -⟩ := lookup_eq_some_iff.1 hl
    exact .inl ⟨ns, by simp, rfl⟩
  | none =>
    cases hr : rows.findSome? (·.image? c.toNat) with
    | none => exact .inr (.inr rfl)
    | some n =>
      obtain ⟨r, hrow, hn⟩ := exists_of_findSome?_eq_some hr
      rw [CaseRow.image?] at hn
      split at hn
      · next h =>
        obtain ⟨⟨hf, hl⟩, -⟩ : (r.first ≤ c.toNat ∧ c.toNat ≤ r.last) ∧ _ := by simpa using h
        obtain rfl := Option.some.inj hn
        exact .inr (.inl ⟨r, hrow, hf, hl, rfl⟩)
      · cases hn

def CaseRow.leavesAscii (r : CaseRow) : Bool :=
  0x80 ≤ r.image && (r.image + (r.last - r.first) < 0xD800 ||
    0xE000 ≤ r.image && r.image + (r.last - r.first) < 0x110000)

variable {c d : Char} {r : CaseRow}

theorem CaseRow.not_isAscii_image (h : r.leavesAscii) (hf : r.first ≤ c.toNat)
    (hl : c.toNat ≤ r.last) : ¬ isAscii (Char.ofNat (r.image + (c.toNat - r.first))) := by
  have hi : 0x80 ≤ r.image ∧ (r.image + (r.last - r.first) < 0xD800 ∨
      0xE000 ≤ r.image ∧ r.image + (r.last - r.first) < 0x110000) := by
    simpa [leavesAscii] using h
  have hv : (r.image + (c.toNat - r.first)).isValidChar := by
    rw [Nat.isValidChar]
    omega
  rw [isAscii, Char.toNat_ofNat, if_pos hv, decide_eq_true_eq]
  omega

/-- The sign for the unit of temperature. Its lower case is that of K, its upper case its own. -/
def kelvinSign : Char := Char.ofNat 0x212A

theorem leavesAscii_of_mem_lowerRows : ∀ r ∈ lowerRows,
    r.leavesAscii ∨ r.first = kelvinSign.toNat ∧ r.last = kelvinSign.toNat := by decide +kernel

theorem length_of_mem_lowerLong : ∀ e ∈ lowerLong, 1 < e.2.length := by decide

theorem isAscii_or_eq_of_lower (h : lower c = [d]) (hd : isAscii d) :
    isAscii c ∨ c = kelvinSign := by
  by_cases hc : isAscii c
  · exact .inl hc
  right
  have hm : lower c = mapped lowerLong lowerRows c := if_neg (by simpa [isAscii] using hc)
  rw [hm] at h
  obtain ⟨ns, hns, hi⟩ | ⟨r, hr, hf, hl, hi⟩ | hi := mapped_cases lowerLong lowerRows c
  · -- A long image is no single character.
    have hlen : 1 < ns.length := length_of_mem_lowerLong _ hns
    rw [hi] at h
    have h1 : ns.length = 1 := by simpa using congrArg length h
    omega
  · rw [hi, singleton_inj] at h
    subst h
    cases leavesAscii_of_mem_lowerRows r hr with
    | inl hr => exact absurd hd (CaseRow.not_isAscii_image hr hf hl)
    | inr hr =>
      apply Char.toNat_inj.1
      omega
  · rw [hi, singleton_inj] at h
    exact absurd (h ▸ hd) hc

theorem isAscii_toLower_ofNat : ∀ n < 0x80, isAscii (Char.ofNat n).toLower := by decide

theorem toUpper_ofNat_ne_kelvinSign : ∀ n < 0x80, (Char.ofNat n).toUpper ≠ kelvinSign := by decide

/-- Letters that are the same as one in ASCII have its upper case, but for the Kelvin sign, which
has one upper-case letter, too. -/
theorem upper_of_sameLetter (h : sameLetter c d = true) (hd : isAscii d) :
    (upper c).length = (upper d).length ∧ (upper d = upper c ↔ c ≠ kelvinSign) := by
  have hlow : isAscii d.toLower := by
    simpa using isAscii_toLower_ofNat d.toNat (of_decide_eq_true hd)
  have hl : lower c = [d.toLower] := by
    rw [← lower_of_isAscii hd]
    exact (sameLetter_iff c d).1 h
  cases isAscii_or_eq_of_lower hl hlow with
  | inl hc =>
    have hu : upper c = upper d := (sameLetter_iff_upper_eq hc hd).1 h
    have hk : c ≠ kelvinSign := by
      rintro rfl
      exact absurd hc (by decide)
    exact ⟨congrArg length hu, iff_of_true hu.symm hk⟩
  | inr hc =>
    subst hc
    have hk : upper kelvinSign = [kelvinSign] := by decide +kernel
    have hu : d.toUpper ≠ kelvinSign := by
      simpa using toUpper_ofNat_ne_kelvinSign d.toNat (of_decide_eq_true hd)
    simp [hk, upper_of_isAscii hd, hu]

end Initialism.Text
