import CommandGateway.Json.Fault

/- Strings in JSON text, read a byte at a time. What the bytes spell is decided at the closing
   quote, so a fault inside the string comes before one in its encoding. -/
namespace CommandGateway.Json

inductive Mode where
  | plain
  | escape
  /-- Some hex digits of an escape, latest first; `high` is the first half of a pair. -/
  | hex (high : Option Nat) (digits : Bytes)
  /-- Behind the first half of a pair, and one further behind its backslash. -/
  | pair (high : Nat)
  | pairEscape (high : Nat)

def hexValue? (c : UInt8) : Option Nat :=
  if 0x30 ≤ c && c ≤ 0x39 then some (c.toNat - 0x30)
  else if 0x61 ≤ c && c ≤ 0x66 then some (c.toNat - 0x61 + 10)
  else if 0x41 ≤ c && c ≤ 0x46 then some (c.toNat - 0x41 + 10)
  else none

def hexNumber? : Bytes → Option Nat
  | [] => some 0
  | d :: ds => do some ((← hexNumber? ds) * 16 + (← hexValue? d))

def shortEscape? (c : UInt8) : Option UInt8 :=
  if c = 0x22 then some 0x22
  else if c = 0x5c then some 0x5c
  else if c = 0x2f then some 0x2f
  else if c = 0x62 then some 0x08
  else if c = 0x66 then some 0x0c
  else if c = 0x6e then some 0x0a
  else if c = 0x72 then some 0x0d
  else if c = 0x74 then some 0x09
  else none

def isHigh (n : Nat) : Bool := 0xd800 ≤ n && n ≤ 0xdbff

def isLow (n : Nat) : Bool := 0xdc00 ≤ n && n ≤ 0xdfff

def spelled (n : Nat) : Bytes := Text.utf8 (String.singleton (Char.ofNat n))

/-- What four hex digits stand for: bytes, or the first half of a pair. -/
def hexEscape (high : Option Nat) (digits : Bytes) : Except Cause (Nat ⊕ Bytes) :=
  match hexNumber? digits with
  | none => .error .badEscape
  | some n =>
    match high with
    | some h =>
      if isLow n then .ok (.inr (spelled (0x10000 + (h - 0xd800) * 0x400 + (n - 0xdc00))))
      else .error .loneSurrogate
    | none =>
      if isLow n then .error .loneSurrogate
      else if isHigh n then .ok (.inl n)
      else .ok (.inr (spelled n))

def readSpelled : Mode → Bytes → Reader Bytes
  | _, _, [] => failHere .endInText []
  | .plain, done, c :: rest =>
    if c = 0x22 then .ok (done.reverse, rest)
    else if c = 0x5c then readSpelled .escape done rest
    else if c < 0x20 then failHere .control rest
    else readSpelled .plain (c :: done) rest
  | .escape, done, c :: rest =>
    if c = 0x75 then readSpelled (.hex none []) done rest
    else
      match shortEscape? c with
      | some b => readSpelled .plain (b :: done) rest
      | none => failHere .badEscape rest
  | .hex high digits, done, c :: rest =>
    if digits.length < 3 then readSpelled (.hex high (c :: digits)) done rest
    else
      match hexEscape high (c :: digits) with
      | .ok (.inl h) => readSpelled (.pair h) done rest
      | .ok (.inr bytes) => readSpelled .plain (bytes.reverse ++ done) rest
      | .error cause => failHere cause rest
  | .pair h, done, c :: rest =>
    if c = 0x5c then readSpelled (.pairEscape h) done rest else failHere .halfPair rest
  | .pairEscape h, done, c :: rest =>
    if c = 0x75 then readSpelled (.hex (some h) []) done rest else failHere .halfPair rest

/-- A string, from behind its opening quote. A byte that belongs to no character is the place of
    the fault; escapes spell whole characters, so the source bytes show which it is. -/
def readText : Reader String := fun b =>
  match readSpelled .plain [] b with
  | .error f => .error f
  | .ok (bytes, rest) =>
    match Text.ofUtf8? bytes with
    | some s => .ok (s, rest)
    | none =>
      failNext .badText (b.drop (Text.validPrefix (b.take (b.length - rest.length))))

end CommandGateway.Json
