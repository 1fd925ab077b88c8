/- Sets and replacements of characters that are given by runs of code points. -/
namespace CommandGateway.Text

def inRanges (table : List (Nat × Nat)) (c : Char) : Bool :=
  table.any fun r => r.1 ≤ c.toNat && c.toNat ≤ r.2

/-- Every `step`-th code point from `first` to `last` stands for the one `shift` further. -/
structure ShiftRun where
  first : Nat
  last : Nat
  step : Nat
  shift : Int

def ShiftRun.holds (r : ShiftRun) (n : Nat) : Bool :=
  r.first ≤ n && n ≤ r.last && (n - r.first) % r.step == 0

def shifted? (table : List ShiftRun) (c : Char) : Option Char :=
  (table.find? (·.holds c.toNat)).map fun r => Char.ofNat ((c.toNat : Int) + r.shift).toNat

end CommandGateway.Text
