import CommandGateway.Json.Value
import CommandGateway.Json.Fault

/- Numbers in JSON text. An integer of 64 bits is exact. Any other number is read as a 64-bit
   significand and a power of ten, multiplied or divided in binary64: digits that no longer fit
   the significand only move the decimal point, and the result may be an ulp off the nearest. -/
namespace CommandGateway.Json

def isDigit (c : UInt8) : Bool := 0x30 ≤ c && c ≤ 0x39

def digitValue (c : UInt8) : Nat := c.toNat - 0x30

def maxSignificand : Nat := Nat.pow 2 64 - 1

def maxExponent : Nat := Nat.pow 2 31 - 1

/-- Takes digits into the significand while they fit, and counts those that are left. -/
def absorb (n : Nat) : Bytes → Nat × Nat
  | [] => (n, 0)
  | d :: ds =>
    if n * 10 + digitValue d ≤ maxSignificand then absorb (n * 10 + digitValue d) ds
    else (n, ds.length + 1)

def exponentOf (n : Nat) : Bytes → Except Bytes Nat
  | [] => .ok n
  | d :: ds =>
    if n * 10 + digitValue d ≤ maxExponent then exponentOf (n * 10 + digitValue d) ds else .error ds

def powerOfTen (n : Nat) : Float := Float.ofScientific 1 false n

/-- `f * 10 ^ e`, in steps of at most 308 powers; nothing when it is too large. -/
def scaleFrom (f : Float) (e : Int) : (fuel : Nat) → Option Float
  | 0 => some 0
  | fuel + 1 =>
    if e.natAbs ≤ 308 then
      if 0 ≤ e then
        let product := f * powerOfTen e.natAbs
        if product.isInf then none else some product
      else some (f / powerOfTen e.natAbs)
    else if f == 0 then some f
    else if 0 ≤ e then none
    else scaleFrom (f / powerOfTen 308) (e + 308) fuel

/-- Two divisions already bring every significand to zero. -/
def scale (significand : Nat) (e : Int) : Option Float :=
  scaleFrom (UInt64.ofNat significand).toFloat e 4

def signed (negative : Bool) (f : Float) : Value :=
  .float (if negative then (-f).toBits else f.toBits)

/-- An integer stays one if 64 bits hold it; a negative zero is a fraction. -/
def integer (negative : Bool) (n : Nat) : Value :=
  if negative then
    if 0 < n ∧ n ≤ Nat.pow 2 63 then .int (-n) else signed true (UInt64.ofNat n).toFloat
  else .int n

def fraction (negative : Bool) (significand : Nat) (e : Int) (rest : Bytes) :
    Except Fault (Value × Bytes) :=
  match scale significand e with
  | some f => .ok (signed negative f, rest)
  | none => failHere .outOfRange rest

def readExponent (negative : Bool) (significand : Nat) (base : Int) (r : Bytes) :
    Except Fault (Value × Bytes) :=
  let (shrinks, r) : Bool × Bytes :=
    match r with
    | 0x2b :: t => (false, t)
    | 0x2d :: t => (true, t)
    | _ => (false, r)
  let digits := r.takeWhile isDigit
  let rest := r.dropWhile isDigit
  if digits.isEmpty then
    match r with
    | [] => failHere .endInValue []
    | _ :: t => failHere .badNumber t
  else
    match exponentOf 0 digits with
    | .ok e => fraction negative significand (if shrinks then base - e else base + e) rest
    | .error tooMany =>
      if significand ≠ 0 ∧ !shrinks then failHere .outOfRange (tooMany ++ rest)
      else .ok (signed negative 0, rest)

def readFraction (negative : Bool) (significand : Nat) (base : Int) (r : Bytes) :
    Except Fault (Value × Bytes) :=
  let digits := r.takeWhile isDigit
  let rest := r.dropWhile isDigit
  if digits.isEmpty then failNext (if r.isEmpty then .endInValue else .badNumber) r
  else
    let (n, unused) := absorb significand digits
    let e : Int := base - (digits.length - unused : Nat)
    match rest with
    | 0x65 :: t => readExponent negative n e t
    | 0x45 :: t => readExponent negative n e t
    | _ => fraction negative n e rest

def readTail (negative : Bool) (n unused : Nat) : Reader Value
  | 0x2e :: t => readFraction negative n unused t
  | 0x65 :: t => readExponent negative n unused t
  | 0x45 :: t => readExponent negative n unused t
  | rest => if unused = 0 then .ok (integer negative n, rest) else fraction negative n unused rest

def readNumber (negative : Bool) : Reader Value
  | [] => failHere .endInValue []
  | c :: r =>
    if c = 0x30 then
      if (r.takeWhile isDigit).isEmpty then readTail negative 0 0 r else failNext .badNumber r
    else if isDigit c then
      let (n, unused) := absorb 0 (c :: r.takeWhile isDigit)
      readTail negative n unused (r.dropWhile isDigit)
    else failHere .badNumber r

end CommandGateway.Json
