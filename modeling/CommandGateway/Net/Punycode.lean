/- Labels of host names beyond ASCII: the ASCII characters, then the others as the differences
   between their code points, in order, each with the places it is put at. -/
namespace CommandGateway.Net

def basicDigit (n : Nat) : Char :=
  if n < 26 then Char.ofNat (0x61 + n) else Char.ofNat (0x30 + n - 26)

def adapt (delta points : Nat) (first : Bool) : Nat :=
  let delta := if first then delta / 700 else delta / 2
  let rec shrink : Nat → Nat → Nat → Nat
    | 0, delta, k => k + 36 * delta / (delta + 38)
    | fuel + 1, delta, k =>
      if 455 < delta then shrink fuel (delta / 35) (k + 36) else k + 36 * delta / (delta + 38)
  shrink delta (delta + delta / points) 0

def threshold (k bias : Nat) : Nat := min 26 (max 1 (k - bias))

def varDigits (bias : Nat) : Nat → Nat → Nat → List Char
  | 0, _, q => [basicDigit q]
  | fuel + 1, k, q =>
    let t := threshold k bias
    if q < t then [basicDigit q]
    else basicDigit (t + (q - t) % (36 - t)) :: varDigits bias fuel (k + 36) ((q - t) / (36 - t))

structure Encoder where
  delta : Nat
  bias : Nat
  handled : Nat
  output : List Char

def encodePoint (basic n : Nat) (s : Encoder) : List Char → Encoder
  | [] => s
  | c :: cs =>
    if c.toNat < n then encodePoint basic n { s with delta := s.delta + 1 } cs
    else if c.toNat = n then
      encodePoint basic n
        { delta := 0
          bias := adapt s.delta (s.handled + 1) (s.handled = basic)
          handled := s.handled + 1
          output := s.output ++ varDigits s.bias (s.delta + 1) 36 s.delta } cs
    else encodePoint basic n s cs

def encodePoints (label : List Char) (basic : Nat) (s : Encoder) (n : Nat) :
    List Nat → List Char
  | [] => s.output
  | m :: rest =>
    let s := { s with delta := s.delta + (m - n) * (s.handled + 1) }
    let s := encodePoint basic m s label
    encodePoints label basic { s with delta := s.delta + 1 } (m + 1) rest

def punycode (label : List Char) : List Char :=
  let basic := label.filter (·.toNat < 0x80)
  let others := (label.filter (0x80 ≤ ·.toNat)).map Char.toNat
  let points := (others.mergeSort (· ≤ ·)).eraseDups
  let start := if basic.isEmpty then [] else basic ++ ['-']
  encodePoints label basic.length ⟨0, 72, basic.length, start⟩ 0x80 points

def codeSign : List Char := "xn--".toList

def asciiLabel (label : List Char) : List Char :=
  if label.all (·.toNat < 0x80) then label else codeSign ++ punycode label

def basicValue? (c : Char) : Option Nat :=
  let n := c.toNat
  if 0x61 ≤ n ∧ n ≤ 0x7a then some (n - 0x61)
  else if 0x41 ≤ n ∧ n ≤ 0x5a then some (n - 0x41)
  else if 0x30 ≤ n ∧ n ≤ 0x39 then some (n - 0x30 + 26)
  else none

/-- The last character put in had code point `point`, and stands in front of `place`. -/
structure Decoder where
  bias : Nat
  point : Nat
  place : Nat
  output : List Char

/-- Puts in the next character, `sum` places from the start of the first round. Each place of the
    text so far counts once for each code point passed. -/
def Decoder.put? (s : Decoder) (sum : Nat) : Option Decoder :=
  let count := s.output.length + 1
  let point := s.point + sum / count
  let place := sum % count
  if point.isValidChar then
    some {
      bias := adapt (sum - s.place) count (s.place = 0)
      point := point
      place := place + 1
      output := s.output.take place ++ Char.ofNat point :: s.output.drop place }
  else none

/-- A number whose digits so far make `sum`; the next has the given weight, and is the `k`th in
    steps of 36. -/
structure Digits where
  sum : Nat
  weight : Nat
  k : Nat

def decodeFrom (s : Decoder) (part : Option Digits) : List Char → Option (List Char)
  | [] => if part.isNone then some s.output else none
  | c :: cs =>
    match basicValue? c with
    | none => none
    | some d =>
      let n := part.getD ⟨s.place, 1, 36⟩
      let sum := n.sum + d * n.weight
      let t := threshold n.k s.bias
      if d < t then
        match s.put? sum with
        | none => none
        | some s => decodeFrom s none cs
      else decodeFrom s (some ⟨sum, n.weight * (36 - t), n.k + 36⟩) cs

def unpunycode? (cs : List Char) : Option (List Char) :=
  let numbers := (cs.reverse.takeWhile (· ≠ '-')).reverse
  let basic := (cs.take (cs.length - numbers.length)).dropLast
  if basic.isEmpty then decodeFrom ⟨72, 0x80, 0, []⟩ none cs
  else if basic.all (·.toNat < 0x80) then decodeFrom ⟨72, 0x80, 0, basic⟩ none numbers
  else none

end CommandGateway.Net
