import CommandGateway.Net.Domain.Direction
import CommandGateway.Net.Domain.Joining
import CommandGateway.Net.Domain.Mapping
import CommandGateway.Net.Domain.MarkTable
import CommandGateway.Net.Punycode

/- Host names beyond ASCII, as they are written within ASCII. A name is brought to the form that
   all its spellings have in common and cut into labels. A label with the sign of the code is
   decoded, to see whether it could have been written plainly. -/
namespace CommandGateway.Net

structure Label where
  written : List Char
  reading : List Char
  deriving DecidableEq

def maxDecoded : Nat := 2000

def maxEncoded : Nat := 1000

def isAscii (cs : List Char) : Bool := cs.all (·.toNat < 0x80)

/-- What the digits behind the sign of the code say. They must not be plain text, and what they
    say must already be in the common form. -/
def decodeLabel? (digits : List Char) : Option (List Char) :=
  if digits = [] ∨ digits.getLast? = some '-' ∨ maxDecoded < digits.length then none
  else
    match unpunycode? digits with
    | none => none
    | some reading =>
      if (reading.all fun c => standing c = .valid) && Text.composed reading = reading then
        some reading
      else none

/-- A label does not start with a mark or, decoded, with the sign of the code. -/
def Label.isSound (l : Label) : Bool :=
  (match l.reading with
    | c :: _ => !Text.inRanges marks c
    | [] => true) &&
  !codeSign.isPrefixOf l.reading &&
  joinersFit [] l.reading &&
  (isAscii l.reading || l.reading.length ≤ maxEncoded)

def Label.ofText? (cs : List Char) : Option Label :=
  let label :=
    if codeSign.isPrefixOf cs then (decodeLabel? (cs.drop codeSign.length)).map (Label.mk cs)
    else some ⟨asciiLabel cs, cs⟩
  label.filter Label.isSound

def asciiName? (name : List Char) : Option (List Char) :=
  match mapped? name with
  | none => none
  | some common =>
    match (Text.pieces (· = '.') (Text.composed common)).mapM Label.ofText? with
    | none => none
    | some labels =>
      if keepDirections (labels.map (·.reading)) then
        some (['.'].intercalate (labels.map (·.written)))
      else none

end CommandGateway.Net
