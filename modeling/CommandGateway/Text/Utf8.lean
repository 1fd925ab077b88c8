/- Bytes and the texts they spell. Which byte strings are UTF-8 is decided by the core
   library's `ByteArray.IsValidUTF8`; this module only moves between lists and strings. -/
namespace CommandGateway

abbrev Bytes := List UInt8

namespace Text

def utf8 (s : String) : Bytes := s.toUTF8.data.toList

def ofUtf8? (b : Bytes) : Option String := String.fromUTF8? ⟨b.toArray⟩

theorem utf8_append (s t : String) : utf8 (s ++ t) = utf8 s ++ utf8 t := by
  simp [utf8]

theorem packed_utf8 (s : String) : (⟨(utf8 s).toArray⟩ : ByteArray) = s.toUTF8 := by
  simp [utf8]

theorem of_utf8_utf8 (s : String) : ofUtf8? (utf8 s) = some s := by
  have valid : s.toUTF8.IsValidUTF8 := s.isValidUTF8
  unfold ofUtf8?
  rw [packed_utf8, String.fromUTF8?, dif_pos valid]
  rfl

/-- The number of bytes before the first one that no character can claim. -/
def validPrefixFrom (b : ByteArray) (fuel i : Nat) : Nat :=
  match fuel with
  | 0 => i
  | fuel + 1 =>
    match b.utf8DecodeChar? i with
    | some c => validPrefixFrom b fuel (i + c.utf8Size)
    | none => i

def validPrefix (b : Bytes) : Nat := validPrefixFrom ⟨b.toArray⟩ b.length 0

/-- How many of the bytes that follow could go on with a character that `lead` begins, at most
    three. What `lead` begins narrows the first of them. -/
def continuations (lead : UInt8) (rest : Bytes) : Nat :=
  let wanted := if lead < 0xc2 then 0 else if lead < 0xe0 then 1 else if lead < 0xf0 then 2
    else if lead < 0xf5 then 3 else 0
  let lowest : UInt8 := if lead = 0xe0 then 0xa0 else if lead = 0xf0 then 0x90 else 0x80
  let highest : UInt8 := if lead = 0xed then 0x9f else if lead = 0xf4 then 0x8f else 0xbf
  match rest with
  | [] => 0
  | b :: more =>
    if wanted = 0 ∨ b < lowest ∨ highest < b then 0
    else 1 + ((more.take (wanted - 1)).takeWhile fun c => 0x80 ≤ c && c ≤ 0xbf).length

def lossyFrom (b : ByteArray) (fuel i : Nat) : List Char :=
  match fuel with
  | 0 => []
  | fuel + 1 =>
    if i < b.size then
      match b.utf8DecodeChar? i with
      | some c => c :: lossyFrom b fuel (i + c.utf8Size)
      | none =>
        let rest := (b.extract (i + 1) (i + 4)).data.toList
        '\ufffd' :: lossyFrom b fuel (i + 1 + continuations (b.get! i) rest)
    else []

def byteOrderMark : Bytes := [0xef, 0xbb, 0xbf]

/-- Any bytes as a text. A byte order mark in front does not count. -/
def lossy (b : Bytes) : String :=
  let b := if byteOrderMark.isPrefixOf b then b.drop 3 else b
  String.ofList (lossyFrom ⟨b.toArray⟩ b.length 0)

end Text
end CommandGateway
