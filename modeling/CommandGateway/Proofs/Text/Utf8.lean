import CommandGateway.Text.Utf8
import Mathlib.Data.List.Basic

/- The bytes of single characters, and texts of ASCII characters, one byte for each. -/
namespace CommandGateway.Text

def byteOf (c : Char) : UInt8 := UInt8.ofNat c.toNat

section Characters
variable {c : Char} {l : List Char}

theorem utf8_of_list (l : List Char) :
    utf8 (String.ofList l) = l.flatMap String.utf8EncodeChar := by
  simp [utf8, List.utf8Encode]

theorem utf8_flat (s : String) : utf8 s = s.toList.flatMap String.utf8EncodeChar := by
  conv_lhs => rw [← String.ofList_toList (s := s)]
  exact utf8_of_list _

theorem utf8_of_bytes {b : Bytes} {s : String} (spelt : ofUtf8? b = some s) : utf8 s = b := by
  unfold ofUtf8? String.fromUTF8? at spelt
  split at spelt
  · cases spelt
    rfl
  · cases spelt

theorem encode_ascii (small : c.toNat < 0x80) :
    String.utf8EncodeChar c = [byteOf c] := by
  have small : c.val.toNat ≤ 0x7f := Nat.le_of_lt_succ small
  simp only [String.utf8EncodeChar, if_pos small]
  rfl

theorem encode_all_ascii (small : ∀ c ∈ l, c.toNat < 0x80) :
    l.flatMap String.utf8EncodeChar = l.map byteOf := by
  induction l with
  | nil => rfl
  | cons c l ih =>
    obtain ⟨first, others⟩ := List.forall_mem_cons.mp small
    rw [List.flatMap_cons, encode_ascii first, ih others]
    rfl

theorem byte_to_nat (small : c.toNat < 0x80) : (byteOf c).toNat = c.toNat := by
  rw [byteOf, UInt8.toNat_ofNat']
  exact Nat.mod_eq_of_lt (by omega)

theorem high_byte {n : Nat} (least : 0x80 ≤ n) (most : n < 0x100) :
    0x80 ≤ (UInt8.ofNat n).toNat := by
  rw [UInt8.toNat_ofNat', Nat.mod_eq_of_lt most]
  exact least

theorem encode_large (large : 0x80 ≤ c.toNat) :
    ∀ b ∈ String.utf8EncodeChar c, 0x80 ≤ b.toNat := by
  have large : 0x80 ≤ c.val.toNat := large
  intro b member
  simp only [String.utf8EncodeChar] at member
  split at member
  · omega
  · split at member
    · simp only [List.mem_cons, List.not_mem_nil, or_false] at member
      rcases member with rfl | rfl <;> exact high_byte (by omega) (by omega)
    · split at member
      · simp only [List.mem_cons, List.not_mem_nil, or_false] at member
        rcases member with rfl | rfl | rfl <;> exact high_byte (by omega) (by omega)
      · simp only [List.mem_cons, List.not_mem_nil, or_false] at member
        rcases member with rfl | rfl | rfl | rfl <;> exact high_byte (by omega) (by omega)

theorem encode_plain (above : 0x20 ≤ c.toNat) (quote : c ≠ '"') (backslash : c ≠ '\\') :
    ∀ b ∈ String.utf8EncodeChar c, ¬ b < 0x20 ∧ b ≠ 0x22 ∧ b ≠ 0x5c := by
  intro b member
  have apart : 0x20 ≤ b.toNat ∧ b.toNat ≠ 0x22 ∧ b.toNat ≠ 0x5c := by
    by_cases small : c.toNat < 0x80
    · rw [encode_ascii small, List.mem_singleton] at member
      subst member
      rw [byte_to_nat small]
      exact ⟨above, fun same => quote (Char.toNat_inj.mp same),
        fun same => backslash (Char.toNat_inj.mp same)⟩
    · have large := encode_large (Nat.le_of_not_lt small) b member
      omega
  obtain ⟨above, quote, backslash⟩ := apart
  refine ⟨?_, ?_, ?_⟩
  · rw [UInt8.lt_iff_toNat_lt]
    exact Nat.not_lt.mpr above
  · exact fun same => quote (congrArg UInt8.toNat same)
  · exact fun same => backslash (congrArg UInt8.toNat same)

end Characters

end CommandGateway.Text
