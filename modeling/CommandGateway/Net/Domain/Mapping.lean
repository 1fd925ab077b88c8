import CommandGateway.Net.Domain.MapTable
import CommandGateway.Net.Ip
import CommandGateway.Text.Pieces

/- What the characters of a host name stand for. Capitals stand for small letters, forms of a
   letter for the letter, some characters for nothing, and the rest for themselves, except those
   that no host name has. -/
namespace CommandGateway.Net

inductive Standing where
  | valid
  | ignored
  | mapped (target : List Char)
  | disallowed
  deriving DecidableEq, Repr

def targetChar (digits : List Char) : Char := Char.ofNat (valueOf 16 digits)

def MapRow.read (r : MapRow) : List (List Char) :=
  (Text.pieces (· = ' ') r.targets.toList).map fun target =>
    (Text.pieces (· = '+') target).map targetChar

/-- Only the last row that does not start behind a code point can have its target. -/
def rowTarget? (n : Nat) : Option (List Char) :=
  match (mappedRows.takeWhile (·.first ≤ n)).getLast? with
  | some row => row.read[n - row.first]?
  | none => none

def standing (c : Char) : Standing :=
  if c.toNat < 0x80 then if c.isUpper then .mapped [c.toLower] else .valid
  else if Text.inRanges ignored c then .ignored
  else if Text.inRanges disallowed c then .disallowed
  else
    match Text.shifted? mappedRuns c, rowTarget? c.toNat with
    | some d, _ => .mapped [d]
    | none, some target => .mapped target
    | none, none => .valid

def mapped? : List Char → Option (List Char)
  | [] => some []
  | c :: cs =>
    match standing c, mapped? cs with
    | _, none => none
    | .valid, some rest => some (c :: rest)
    | .ignored, some rest => some rest
    | .mapped target, some rest => some (target ++ rest)
    | .disallowed, some _ => none

end CommandGateway.Net
