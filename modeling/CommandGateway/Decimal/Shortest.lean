/- The shortest decimal that reads back as a given binary64 number. Everything is exact
   arithmetic on natural numbers; no floating-point operation is used. -/
namespace CommandGateway.Decimal

/-- A positive binary number `mantissa * 2 ^ exponent`, and the numbers nearer to it than to
    its neighbours: from `low` to `high` quarters of `2 ^ exponent`, the ends included or not. -/
structure Binary where
  mantissa : Nat
  exponent : Int
  low : Nat
  high : Nat
  closed : Bool

structure Short where
  digits : Nat
  exponent : Int
  deriving DecidableEq, Repr

/-- The parts of a finite positive binary64 number, from its bits. The gap below a power of two
    is half as wide as the gap above it. -/
def Binary.ofBits (bits : UInt64) : Binary :=
  let fraction : Nat := bits.toNat % Nat.pow 2 52
  let field : Nat := bits.toNat / Nat.pow 2 52 % Nat.pow 2 11
  let m : Nat := if field = 0 then fraction else fraction + Nat.pow 2 52
  let e : Int := if field = 0 then -1074 else (field : Int) - 1075
  { mantissa := m
    exponent := e
    low := if fraction = 0 ∧ 1 < field then 4 * m - 1 else 4 * m - 2
    high := 4 * m + 2
    closed := m % 2 == 0 }

/-- Quarters of `2 ^ e` and multiples of `10 ^ s` upper one denominator: `(a, b)` such that
    `x` quarters are `x * a` and `d` multiples are `d * b`. -/
def scales (e s : Int) : Nat × Nat :=
  let f := e - 2
  (Nat.pow 2 f.toNat * Nat.pow 10 (-s).toNat, Nat.pow 10 s.toNat * Nat.pow 2 (-f).toNat)

def Binary.holds (x : Binary) (a point : Nat) : Bool :=
  if x.closed then x.low * a ≤ point && point ≤ x.high * a
  else x.low * a < point && point < x.high * a

/-- The neighbour of `x` among the multiples of `10 ^ s` that reads back as `x`; of two, the
    nearer, and of two equally near the even one. -/
def Binary.onGrid (x : Binary) (s : Int) : Option Nat :=
  let (a, b) := scales x.exponent s
  let point := 4 * x.mantissa * a
  let below := point / b
  let under := x.holds a (below * b)
  let upper := x.holds a ((below + 1) * b)
  if under && upper then
    let rest := point - below * b
    if 2 * rest < b then some below
    else if b < 2 * rest then some (below + 1)
    else some (if below % 2 = 0 then below else below + 1)
  else if under then some below
  else if upper then some (below + 1)
  else none

def Binary.shortestFrom (x : Binary) (s : Int) : (fuel : Nat) → Short
  | 0 => ⟨0, 0⟩
  | fuel + 1 =>
    match x.onGrid s with
    | some d => ⟨d, s⟩
    | none => x.shortestFrom (s - 1) fuel

def Binary.ceiling (x : Binary) : Int :=
  ((x.mantissa.log2 : Int) + x.exponent + 1) * 1233 / 4096 + 2

/-- Seventeen digits always suffice, and the search starts at most three powers too high. -/
def Binary.shortest (x : Binary) : Short := x.shortestFrom x.ceiling 24

end CommandGateway.Decimal
