import CommandGateway.Json.Quoted
import CommandGateway.Text.Utf8

/- Percent-encoding: a byte that may not stand for itself is written by two hex digits. -/
namespace CommandGateway.Net

def upperHex (n : Nat) : Char :=
  if n < 10 then Char.ofNat (0x30 + n) else Char.ofNat (0x41 + n - 10)

def encodeByte (b : UInt8) : List Char := ['%', upperHex (b.toNat / 16), upperHex (b.toNat % 16)]

/-- Controls and all beyond ASCII are encoded, whatever else is. -/
def mustEncode (special : List Char) (c : Char) : Bool :=
  c.toNat < 0x20 || 0x7f ≤ c.toNat || special.contains c

def encodeChar (special : List Char) (c : Char) : List Char :=
  if mustEncode special c then (Text.utf8 (String.singleton c)).flatMap encodeByte else [c]

def percentEncode (special : List Char) (cs : List Char) : String :=
  String.ofList (cs.flatMap (encodeChar special))

/-- A percent sign without two hex digits behind it stands for itself. -/
def percentDecode : Bytes → Bytes
  | 0x25 :: h :: l :: rest =>
    match Json.hexValue? h, Json.hexValue? l with
    | some high, some low => UInt8.ofNat (high * 16 + low) :: percentDecode rest
    | _, _ => 0x25 :: percentDecode (h :: l :: rest)
  | b :: rest => b :: percentDecode rest
  | [] => []

end CommandGateway.Net
