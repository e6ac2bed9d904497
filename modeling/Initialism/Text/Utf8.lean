/-! Bytes as text in UTF-8. -/
namespace Initialism.Text

def decode? (bytes : List UInt8) : Option String := String.fromUTF8? bytes.toByteArray

theorem utf8ByteSize_ofList_cons (c : Char) (cs : List Char) :
    (String.ofList (c :: cs)).utf8ByteSize = c.utf8Size + (String.ofList cs).utf8ByteSize := by
  rw [← List.singleton_append, String.ofList_append, String.utf8ByteSize_append]
  simp

theorem toNat_lt_of_isAlpha {c : Char} (h : c.isAlpha) : c.toNat < 0x80 := by
  have hn : c.toNat = c.val.toNat := rfl
  delta Char.isAlpha Char.isUpper Char.isLower at h
  simp [UInt32.le_iff_toNat_le] at h
  omega

theorem utf8Size_of_lt {c : Char} (h : c.toNat < 0x80) : c.utf8Size = 1 := by
  have hc : c.toNat ≤ 127 := Nat.le_of_lt_succ h
  rw [Char.utf8Size_eq_one_iff]
  simpa [UInt32.le_iff_toNat_le] using hc

theorem utf8Size_of_isAlpha {c : Char} (h : c.isAlpha) : c.utf8Size = 1 :=
  utf8Size_of_lt (toNat_lt_of_isAlpha h)

theorem utf8ByteSize_ofList_of_lt {cs : List Char} (h : ∀ c ∈ cs, c.toNat < 0x80) :
    (String.ofList cs).utf8ByteSize = cs.length := by
  induction cs with
  | nil => rfl
  | cons c cs ih =>
    obtain ⟨hc, hcs⟩ := List.forall_mem_cons.1 h
    rw [utf8ByteSize_ofList_cons, utf8Size_of_lt hc, ih hcs, List.length_cons, Nat.add_comm]

end Initialism.Text
