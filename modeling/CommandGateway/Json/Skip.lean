import CommandGateway.Json.Reader

/- Passing over a value that nobody wants. Nothing is kept of it, so numbers may have any size,
   strings may spell anything, and containers may nest to any depth; the open ones are a stack. -/
namespace CommandGateway.Json

inductive Bracket where
  | list
  | object

def skipDigits (b : Bytes) : Bytes := b.dropWhile isDigit

def skipExponent (r : Bytes) : Except Fault Bytes :=
  let digits : Bytes :=
    match r with
    | 0x2b :: t => t
    | 0x2d :: t => t
    | _ => r
  match digits with
  | [] => failHere .badNumber []
  | c :: t => if isDigit c then .ok (skipDigits t) else failHere .badNumber t

def skipFraction (r : Bytes) : Except Fault Bytes :=
  if (r.takeWhile isDigit).isEmpty then failNext .badNumber r
  else
    match skipDigits r with
    | 0x65 :: t => skipExponent t
    | 0x45 :: t => skipExponent t
    | rest => .ok rest

def skipNumber : Bytes → Except Fault Bytes
  | [] => failHere .badNumber []
  | c :: r =>
    if c = 0x30 ∧ !(r.takeWhile isDigit).isEmpty then failNext .badNumber r
    else if isDigit c then
      match skipDigits (c :: r) with
      | 0x2e :: t => skipFraction t
      | 0x65 :: t => skipExponent t
      | 0x45 :: t => skipExponent t
      | rest => .ok rest
    else failHere .badNumber r

inductive SkipMode where
  | plain
  | escape
  | hex (digits : Bytes)

def skipText : SkipMode → Bytes → Except Fault Bytes
  | _, [] => failHere .endInText []
  | .plain, c :: rest =>
    if c = 0x22 then .ok rest
    else if c = 0x5c then skipText .escape rest
    else if c < 0x20 then failHere .control (c :: rest)
    else skipText .plain rest
  | .escape, c :: rest =>
    if c = 0x75 then skipText (.hex []) rest
    else if (shortEscape? c).isSome then skipText .plain rest
    else failHere .badEscape rest
  | .hex digits, c :: rest =>
    if digits.length < 3 then skipText (.hex (c :: digits)) rest
    else if (hexNumber? (c :: digits)).isSome then skipText .plain rest
    else failHere .badEscape rest

/-- Before a value; behind an opening bracket; behind a value in a container. -/
inductive SkipPlace where
  | value
  | opened
  | between

def skipKey (bracket : Bracket) (b : Bytes) : Except Fault Bytes :=
  match bracket with
  | .list => .ok b
  | .object =>
    match skipBlank b with
    | [] => failHere .endInObject []
    | c :: rest =>
      if c = 0x22 then
        match skipText .plain rest with
        | .error f => .error f
        | .ok t => readColon t
      else failHere .wantedKey rest

def skipStart (c : UInt8) (rest : Bytes) : Except Fault (Option Bracket × Bytes) :=
  let scalar (r : Except Fault Bytes) : Except Fault (Option Bracket × Bytes) :=
    match r with
    | .ok t => .ok (none, t)
    | .error f => .error f
  let word (r : Except Fault (Value × Bytes)) : Except Fault (Option Bracket × Bytes) :=
    match r with
    | .ok (_, t) => .ok (none, t)
    | .error f => .error f
  if c = 0x6e then word (readNull rest)
  else if c = 0x74 then word (readTrue rest)
  else if c = 0x66 then word (readFalse rest)
  else if c = 0x2d then scalar (skipNumber rest)
  else if isDigit c then scalar (skipNumber (c :: rest))
  else if c = 0x22 then scalar (skipText .plain rest)
  else if c = 0x5b then .ok (some .list, rest)
  else if c = 0x7b then .ok (some .object, rest)
  else failHere .wantedValue rest

def closing : Bracket → UInt8
  | .list => 0x5d
  | .object => 0x7d

def unclosed : Bracket → Cause
  | .list => .endInList
  | .object => .endInObject

def wantedEnd : Bracket → Cause
  | .list => .wantedListEnd
  | .object => .wantedObjectEnd

/-- Goes on until the stack of open containers is empty behind a value. -/
def skipFrom (place : SkipPlace) (stack : List Bracket) (b : Bytes) :
    (fuel : Nat) → Except Fault Bytes
  | 0 => .ok b
  | fuel + 1 =>
    match place, stack with
    | .value, _ =>
      match skipBlank b with
      | [] => failHere .endInValue []
      | c :: rest =>
        match skipStart c rest with
        | .error f => .error f
        | .ok (none, t) => skipFrom .between stack t fuel
        | .ok (some bracket, t) => skipFrom .opened (bracket :: stack) t fuel
    | _, [] => .ok b
    | .opened, bracket :: outer =>
      match skipBlank b with
      | [] => failHere (unclosed bracket) []
      | c :: rest =>
        if c = closing bracket then skipFrom .between outer rest fuel
        else
          match skipKey bracket (c :: rest) with
          | .error f => .error f
          | .ok t => skipFrom .value stack t fuel
    | .between, bracket :: outer =>
      match skipBlank b with
      | [] => failHere (unclosed bracket) []
      | c :: rest =>
        if c = 0x2c then
          match skipKey bracket rest with
          | .error f => .error f
          | .ok t => skipFrom .value stack t fuel
        else if c = closing bracket then skipFrom .between outer rest fuel
        else failHere (wantedEnd bracket) rest

/-- Each step but one per bracket passes over a byte. -/
def skipValue (b : Bytes) : Except Fault Bytes := skipFrom .value [] b (2 * b.length + 2)

end CommandGateway.Json
