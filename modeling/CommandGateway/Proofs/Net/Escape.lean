import CommandGateway.Net.Url
import CommandGateway.Proofs.Text.Utf8

/- Percent-encoding and its reading. A text that is encoded reads as it did before: what is written
   by two hex digits comes back, and whatever was an escape already is one still. -/
namespace CommandGateway.Net

open Json Text

def escaped (special : List Char) (b : UInt8) : Bytes :=
  if mustEncode special (Char.ofNat b.toNat) then (encodeByte b).map byteOf else [b]

section Bytes
variable {special : List Char} {b : UInt8}

def isHex (b : UInt8) : Bool := (hexValue? b).isSome

def opensEscape : Bytes → Bool
  | h :: l :: _ => isHex h && isHex l
  | _ => false

theorem all_bytes {P : UInt8 → Prop} (all : ∀ n < 256, P (UInt8.ofNat n)) (b : UInt8) : P b := by
  have one := all b.toNat b.toNat_lt
  rwa [UInt8.ofNat_toNat] at one

theorem encoded_byte (b : UInt8) : ∃ h l high low, (encodeByte b).map byteOf = [0x25, h, l] ∧
    hexValue? h = some high ∧ hexValue? l = some low ∧ UInt8.ofNat (high * 16 + low) = b := by
  have digit : ∀ n < 16, hexValue? (byteOf (upperHex n)) = some n := by decide
  have lower := b.toNat_lt
  refine ⟨_, _, _, _, rfl, digit _ (by omega), digit _ (by omega), ?_⟩
  rw [Nat.mul_comm, Nat.div_add_mod, UInt8.ofNat_toNat]

theorem encode_byte_small (b : UInt8) : ∀ c ∈ encodeByte b, c.toNat < 0x80 := by
  have digit : ∀ n < 16, (upperHex n).toNat < 0x80 := by decide
  have lower := b.toNat_lt
  simp only [encodeByte, List.mem_cons, List.not_mem_nil, or_false]
  rintro c (rfl | rfl | rfl)
  · decide
  · exact digit _ (by omega)
  · exact digit _ (by omega)

theorem decode_other (other : b ≠ 0x25) (rest : Bytes) :
    percentDecode (b :: rest) = b :: percentDecode rest := by
  rw [percentDecode]
  exact fun h l more same => absurd same other

theorem decode_escape {h l : UInt8} {high low : Nat} (first : hexValue? h = some high)
    (second : hexValue? l = some low) (rest : Bytes) :
    percentDecode (0x25 :: h :: l :: rest) =
      UInt8.ofNat (high * 16 + low) :: percentDecode rest := by
  rw [percentDecode, first, second]

theorem decode_open {rest : Bytes} (shut : opensEscape rest = false) :
    percentDecode (0x25 :: rest) = 0x25 :: percentDecode rest := by
  match rest with
  | [] => rfl
  | [b] => rfl
  | h :: l :: more =>
    simp only [opensEscape, isHex] at shut
    rw [percentDecode]
    cases first : hexValue? h <;> cases second : hexValue? l <;> simp [first, second] at shut ⊢

theorem opens_shut (other : ¬ isHex b) (rest : Bytes) : opensEscape (b :: rest) = false := by
  cases rest <;> simp [opensEscape, other]

/-- Neither a percent sign nor a digit is encoded. -/
def KeepsEscapes (special : List Char) : Prop :=
  ∀ b : UInt8, b = 0x25 ∨ isHex b → escaped special b = [b]

theorem path_keeps_escapes : KeepsEscapes pathSpecials := by
  have all : ∀ n < 256, UInt8.ofNat n = 0x25 ∨ isHex (UInt8.ofNat n) →
      mustEncode pathSpecials (Char.ofNat (UInt8.ofNat n).toNat) = false := by decide +kernel
  intro b own
  have literal := all_bytes (P := fun b => b = 0x25 ∨ isHex b →
    mustEncode pathSpecials (Char.ofNat b.toNat) = false) all b own
  simp [escaped, literal]

variable (keeps : KeepsEscapes special)
include keeps

theorem escaped_start (b : UInt8) : ∃ first more, escaped special b = first :: more ∧
    isHex first = isHex b ∧ (isHex b → more = []) := by
  by_cases hex : isHex b
  · exact ⟨b, [], keeps b (.inr hex), rfl, fun _ => rfl⟩
  · unfold escaped
    split
    · obtain ⟨h, l, -, -, spelt, -⟩ := encoded_byte b
      rw [spelt]
      exact ⟨0x25, [h, l], rfl, ((Bool.not_eq_true _).mp hex).symm, fun is => absurd is hex⟩
    · exact ⟨b, [], rfl, rfl, fun _ => rfl⟩

theorem escaped_opens (bs : Bytes) :
    opensEscape (bs.flatMap (escaped special)) = opensEscape bs := by
  match bs with
  | [] => rfl
  | b :: rest =>
    obtain ⟨first, more, spelt, hex, alone⟩ := escaped_start keeps b
    by_cases digit : isHex b
    · obtain rfl := alone digit
      match rest with
      | [] => simp [spelt, opensEscape]
      | c :: rest =>
        obtain ⟨second, more, spelt', hex', -⟩ := escaped_start keeps c
        simp [spelt, spelt', opensEscape, hex, hex']
    · rw [List.flatMap_cons, spelt, List.cons_append, opens_shut (hex ▸ digit), opens_shut digit]

theorem decode_escaped (bs : Bytes) :
    percentDecode (bs.flatMap (escaped special)) = percentDecode bs := by
  fun_induction percentDecode bs with
  | case1 h l rest low high second first ih =>
    have digits : isHex h ∧ isHex l := by simp [isHex, first, second]
    simp only [List.flatMap_cons, keeps 0x25 (.inl rfl), keeps h (.inr digits.1),
      keeps l (.inr digits.2), List.singleton_append]
    rw [decode_escape first second, ih]
  | case2 h l rest other ih =>
    have shut : opensEscape (h :: l :: rest) = false := by
      cases first : hexValue? h <;> cases second : hexValue? l <;>
        simp [opensEscape, isHex, first, second] at other ⊢
    rw [List.flatMap_cons, keeps 0x25 (.inl rfl), List.singleton_append,
      decode_open ((escaped_opens keeps _).trans shut), ih]
  | case3 b rest other ih =>
    by_cases percent : b = 0x25
    · have shut : opensEscape rest = false := by
        match rest with
        | [] | [c] => rfl
        | h :: l :: more => exact absurd rfl (other h l more percent)
      rw [List.flatMap_cons, percent, keeps 0x25 (.inl rfl), List.singleton_append,
        decode_open ((escaped_opens keeps _).trans shut), ih]
    · rw [List.flatMap_cons]
      unfold escaped
      split
      · obtain ⟨h, l, high, low, spelt, first, second, same⟩ := encoded_byte b
        rw [spelt]
        exact (decode_escape first second _).trans (by rw [same, ← ih]; rfl)
      · exact (decode_other percent _).trans (congrArg _ ih)
  | case4 => rfl

end Bytes

section Texts
variable {special : List Char}

theorem char_of_byte {c : Char} (small : c.toNat < 0x80) :
    Char.ofNat (byteOf c).toNat = c := by
  rw [byte_to_nat small, Char.ofNat_toNat]

theorem large_escaped {b : UInt8} (large : 0x80 ≤ b.toNat) :
    escaped special b = (encodeByte b).map byteOf := by
  have all : ∀ n < 256, 0x80 ≤ n → 0x7f ≤ (Char.ofNat n).toNat := by decide +kernel
  have beyond := all b.toNat b.toNat_lt large
  exact if_pos (by simp [mustEncode, beyond])

theorem encode_char_escaped (c : Char) : (encodeChar special c).flatMap String.utf8EncodeChar =
    (String.utf8EncodeChar c).flatMap (escaped special) := by
  have bytes : ∀ b, (encodeByte b).flatMap String.utf8EncodeChar = (encodeByte b).map byteOf :=
    fun b => encode_all_ascii (encode_byte_small b)
  unfold encodeChar
  by_cases small : c.toNat < 0x80
  · have own : escaped special (byteOf c) =
        if mustEncode special c then (encodeByte (byteOf c)).map byteOf else [byteOf c] := by
      rw [escaped, char_of_byte small]
    rw [encode_ascii small, List.flatMap_singleton, own]
    split
    · simp [utf8_flat, encode_ascii small, bytes]
    · simp [encode_ascii small]
  · have large := encode_large (Nat.le_of_not_lt small)
    have must : mustEncode special c := by
      simp [mustEncode, show 0x7f ≤ c.toNat by omega]
    rw [if_pos must, utf8_flat, List.flatMap_assoc]
    simp only [bytes]
    rw [String.toList_singleton, List.flatMap_singleton]
    exact List.flatMap_congr fun b member => (large_escaped (large b member)).symm

theorem utf8_encode (cs : List Char) : utf8 (percentEncode special cs) =
    (utf8 (String.ofList cs)).flatMap (escaped special) := by
  rw [percentEncode, utf8_of_list, utf8_of_list, List.flatMap_assoc, List.flatMap_assoc]
  exact List.flatMap_congr fun c _ => encode_char_escaped c

theorem decode_encode (cs : List Char) :
    percentDecode (utf8 (percentEncode pathSpecials cs)) =
      percentDecode (utf8 (String.ofList cs)) := by
  rw [utf8_encode, decode_escaped path_keeps_escapes]

end Texts
end CommandGateway.Net
