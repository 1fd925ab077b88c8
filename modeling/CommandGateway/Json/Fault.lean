import CommandGateway.Text.Utf8

/- Why a JSON text is refused, and where. A reader works on the bytes that are left, so a place
   in the text is kept as the number of bytes behind it. -/
namespace CommandGateway.Json

inductive Found where
  | null
  | bool (b : Bool)
  | int (n : Int)
  | float (shown : String)
  | text (shown : String)
  | sequence
  | map
  deriving DecidableEq

inductive Cause where
  | endInValue
  | endInList
  | endInObject
  | endInText
  | wantedColon
  | wantedListEnd
  | wantedObjectEnd
  | wantedWord
  | wantedValue
  | wantedKey
  | badEscape
  | badNumber
  | outOfRange
  | badText
  | control
  | loneSurrogate
  | halfPair
  | trailingComma
  | trailingInput
  | tooDeep
  | mismatch (found : Found) (wanted : String)
  | missing (field : String)
  | duplicate (field : String)
  | tooShort (found : Nat) (wanted : String)
  /-- What is wrong with a JSON text inside a string, and where in that text. -/
  | embedded (message : String)
  deriving DecidableEq

structure Fault where
  cause : Cause
  left : Nat
  deriving DecidableEq

def Found.describe : Found → String
  | .null => "null"
  | .bool true => "boolean `true`"
  | .bool false => "boolean `false`"
  | .int n => "integer `" ++ toString n ++ "`"
  | .float shown => "floating point `" ++ shown ++ "`"
  | .text shown => "string " ++ shown
  | .sequence => "sequence"
  | .map => "map"

def mismatchText (found : Found) (wanted : String) : String :=
  "invalid type: " ++ found.describe ++ ", expected " ++ wanted

def Cause.describe : Cause → String
  | .endInValue => "EOF while parsing a value"
  | .endInList => "EOF while parsing a list"
  | .endInObject => "EOF while parsing an object"
  | .endInText => "EOF while parsing a string"
  | .wantedColon => "expected `:`"
  | .wantedListEnd => "expected `,` or `]`"
  | .wantedObjectEnd => "expected `,` or `\x7d`"
  | .wantedWord => "expected ident"
  | .wantedValue => "expected value"
  | .wantedKey => "key must be a string"
  | .badEscape => "invalid escape"
  | .badNumber => "invalid number"
  | .outOfRange => "number out of range"
  | .badText => "invalid unicode code point"
  | .control => "control character (\\u0000-\\u001F) found while parsing a string"
  | .loneSurrogate => "lone leading surrogate in hex escape"
  | .halfPair => "unexpected end of hex escape"
  | .trailingComma => "trailing comma"
  | .trailingInput => "trailing characters"
  | .tooDeep => "recursion limit exceeded"
  | .mismatch found wanted => mismatchText found wanted
  | .missing field => "missing field `" ++ field ++ "`"
  | .duplicate field => "duplicate field `" ++ field ++ "`"
  | .tooShort found wanted => "invalid length " ++ toString found ++ ", expected " ++ wanted
  | .embedded message => message

def newline : UInt8 := 10

def lineOf (passed : Bytes) : Nat := passed.count newline + 1

def columnOf (passed : Bytes) : Nat := (passed.reverse.takeWhile (· != newline)).length

/-- The cause with its place in `input`, unless it already tells a place of its own. -/
def Fault.message (input : Bytes) (f : Fault) : String :=
  let passed := input.take (input.length - f.left)
  match f.cause with
  | .embedded message => message
  | cause =>
    cause.describe ++ " at line " ++ toString (lineOf passed) ++ " column " ++
      toString (columnOf passed)

abbrev Reader (α : Type) := Bytes → Except Fault (α × Bytes)

def failHere {α : Type} (cause : Cause) (rest : Bytes) : Except Fault α :=
  .error ⟨cause, rest.length⟩

/-- A fault on the first byte of `rest`, or at the end when there is none. -/
def failNext {α : Type} (cause : Cause) (rest : Bytes) : Except Fault α :=
  .error ⟨cause, rest.length - 1⟩

end CommandGateway.Json
