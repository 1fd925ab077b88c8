import CommandGateway.Json.Value
import CommandGateway.Decimal.Shortest

/- Compact JSON text. A fraction is written with the fewest digits that read back, positionally
   for decimal exponents from -5 to 15 and otherwise with a signed exponent. Only quotes,
   backslashes and characters below U+0020 are escaped in strings. -/
namespace CommandGateway.Json

open Decimal

/-- Where a number changes from positional to exponent form. -/
structure FractionFormat where
  leastPositional : Int
  firstExponent : Int

def fractionFormat : FractionFormat := ⟨-5, 16⟩

def decimalDigits (n : Nat) : List Char := Nat.toDigits 10 n

def exponentText (e : Int) : String :=
  if e < 0 then "e-" ++ toString e.natAbs else "e+" ++ toString e.natAbs

def shortText (format : FractionFormat) (d : Short) : String :=
  let digits := decimalDigits d.digits
  let point : Int := digits.length + d.exponent
  let e := point - 1
  if e < format.leastPositional ∨ format.firstExponent ≤ e then
    match digits with
    | [] => ""
    | [c] => String.singleton c ++ exponentText e
    | c :: rest => String.singleton c ++ "." ++ String.ofList rest ++ exponentText e
  else if point ≤ 0 then
    "0." ++ String.ofList (List.replicate point.natAbs '0' ++ digits)
  else if digits.length ≤ point.toNat then
    String.ofList (digits ++ List.replicate (point.toNat - digits.length) '0') ++ ".0"
  else
    String.ofList (digits.take point.toNat) ++ "." ++ String.ofList (digits.drop point.toNat)

def floatText (bits : UInt64) : String :=
  let sign := if bits.toNat / Nat.pow 2 63 = 1 then "-" else ""
  let size := UInt64.ofNat (bits.toNat % Nat.pow 2 63)
  if size = 0 then sign ++ "0.0"
  else sign ++ shortText fractionFormat (Binary.ofBits size).shortest

def hexDigit (n : Nat) : Char := (Nat.toDigits 16 n).headD '0'

def escape (c : Char) : List Char :=
  if c = '"' then ['\\', '"']
  else if c = '\\' then ['\\', '\\']
  else if c = '\x08' then ['\\', 'b']
  else if c = '\x0c' then ['\\', 'f']
  else if c = '\n' then ['\\', 'n']
  else if c = '\r' then ['\\', 'r']
  else if c = '\t' then ['\\', 't']
  else if c.toNat < 0x20 then
    ['\\', 'u', '0', '0', hexDigit (c.toNat / 16), hexDigit (c.toNat % 16)]
  else [c]

def quote (s : String) : String :=
  "\"" ++ String.ofList (s.toList.flatMap escape) ++ "\""

mutual
def Value.render : Value → String
  | .null => "null"
  | .bool true => "true"
  | .bool false => "false"
  | .int n => toString n
  | .float bits => floatText bits
  | .string s => quote s
  | .array items => "[" ++ ",".intercalate (itemTexts items) ++ "]"
  | .object members => "\x7b" ++ ",".intercalate (memberTexts members) ++ "\x7d"

def itemTexts : List Value → List String
  | [] => []
  | v :: vs => v.render :: itemTexts vs

def memberTexts : List Member → List String
  | [] => []
  | (k, v) :: ms => (quote k ++ ":" ++ v.render) :: memberTexts ms
end

end CommandGateway.Json
