import CommandGateway.Json.Found
import CommandGateway.Json.Number
import CommandGateway.Json.Quoted

/- JSON text as a value. A fault is the first one met from the left. Arrays and objects nest at
   most 127 deep; of members with one key the last counts. An object may also stand for a value
   whose text it holds; that text is read on its own, and nests from nothing again. -/
namespace CommandGateway.Json

def isBlank (c : UInt8) : Bool := c = 0x20 || c = 0x0a || c = 0x09 || c = 0x0d

def skipBlank (b : Bytes) : Bytes := b.dropWhile isBlank

def deepest : Nat := 127

def readWord {α : Type} (value : α) : (letters : Bytes) → Reader α
  | [], rest => .ok (value, rest)
  | _ :: _, [] => failHere .endInValue []
  | l :: ls, c :: rest => if c = l then readWord value ls rest else failHere .wantedWord rest

def readNull : Reader Value := readWord .null [0x75, 0x6c, 0x6c]

def readTrue : Reader Value := readWord (.bool true) [0x72, 0x75, 0x65]

def readFalse : Reader Value := readWord (.bool false) [0x61, 0x6c, 0x73, 0x65]

/-- Inside a container: the place of the next entry, or what stands behind the container. -/
inductive Next where
  | entry (b : Bytes)
  | close (rest : Bytes)

/-- Inside an array. Every item but the first needs a comma before it, and one after it. -/
def nextItem (first : Bool) (b : Bytes) : Except Fault Next :=
  match skipBlank b with
  | [] => failHere .endInList []
  | c :: rest =>
    if c = 0x5d then .ok (.close rest)
    else if first then .ok (.entry (c :: rest))
    else if c = 0x2c then
      match skipBlank rest with
      | [] => failHere .endInValue []
      | d :: t => if d = 0x5d then failHere .trailingComma t else .ok (.entry (d :: t))
    else failHere .wantedListEnd rest

def nextKey (first : Bool) (b : Bytes) : Except Fault Next :=
  match skipBlank b with
  | [] => failHere .endInObject []
  | c :: rest =>
    if c = 0x7d then .ok (.close rest)
    else if first then
      if c = 0x22 then .ok (.entry rest) else failHere .wantedKey rest
    else if c = 0x2c then
      match skipBlank rest with
      | [] => failHere .endInValue []
      | d :: t =>
        if d = 0x22 then .ok (.entry t)
        else if d = 0x7d then failHere .trailingComma t
        else failHere .wantedKey t
    else failHere .wantedObjectEnd rest

def readColon (b : Bytes) : Except Fault Bytes :=
  match skipBlank b with
  | [] => failHere .endInObject []
  | c :: rest => if c = 0x3a then .ok rest else failHere .wantedColon rest

/-- The items of an array, from behind its bracket, each read by `item`. Items read so far are
    kept latest first. There are not more of them than bytes, so the bytes are the fuel. -/
def readItems {α : Type} (item : Reader α) (done : List α) (b : Bytes) :
    (fuel : Bytes) → Except Fault (List α × Bytes)
  | [] => failHere .endInList b
  | _ :: fuel =>
    match nextItem done.isEmpty b with
    | .error f => .error f
    | .ok (.close rest) => .ok (done.reverse, rest)
    | .ok (.entry r) =>
      match item r with
      | .error f => .error f
      | .ok (v, rest) => readItems item (v :: done) rest fuel

def readKey : Reader String := fun b =>
  match readText b with
  | .error f => .error f
  | .ok (key, rest) =>
    match readColon rest with
    | .error f => .error f
    | .ok rest => .ok (key, rest)

def readMembers (item : Reader Value) (done : List Member) (b : Bytes) :
    (fuel : Bytes) → Except Fault (List Member × Bytes)
  | [] => failHere .endInObject b
  | _ :: fuel =>
    match nextKey false b with
    | .error f => .error f
    | .ok (.close rest) => .ok (done, rest)
    | .ok (.entry r) =>
      match readKey r with
      | .error f => .error f
      | .ok (key, rest) =>
        match item rest with
        | .error f => .error f
        | .ok (v, rest) => readMembers item (insert (key, v) done) rest fuel

def readScalar (c : UInt8) (rest : Bytes) : Except Fault (Value × Bytes) :=
  if c = 0x6e then readNull rest
  else if c = 0x74 then readTrue rest
  else if c = 0x66 then readFalse rest
  else if c = 0x2d then readNumber true rest
  else if isDigit c then readNumber false (c :: rest)
  else if c = 0x22 then
    match readText rest with
    | .ok (s, rest) => .ok (.string s, rest)
    | .error f => .error f
  else failHere .wantedValue rest

/-- Refuses the value at `c`. A container is named without being read. -/
def refuse {α : Type} (wanted : String) (c : UInt8) (rest : Bytes) : Except Fault α :=
  if c = 0x5b then failHere (.mismatch .sequence wanted) (c :: rest)
  else if c = 0x7b then failHere (.mismatch .map wanted) (c :: rest)
  else
    match readScalar c rest with
    | .error f => .error f
    | .ok (v, t) => failHere (.mismatch (Found.ofValue v) wanted) t

/-- An object whose first key is this one stands for the value whose JSON text is behind it. -/
def embedKey : String := "$serde_json::private::RawValue"

def embedWanted : String := "raw value"

def endEmbedded (v : Value) (b : Bytes) : Except Fault (Value × Bytes) :=
  match skipBlank b with
  | [] => failHere .endInObject []
  | c :: rest =>
    if c = 0x7d then .ok (v, rest)
    else failHere (if c = 0x2c then .trailingComma else .trailingInput) rest

def readEmbedded (text : Bytes → Except Fault Value) : Reader Value := fun b =>
  match skipBlank b with
  | [] => failHere .endInValue []
  | c :: rest =>
    if c = 0x22 then
      match readText rest with
      | .error f => .error f
      | .ok (s, rest) =>
        match text (Text.utf8 s) with
        | .error f => failHere (.embedded (f.message (Text.utf8 s))) rest
        | .ok v => endEmbedded v rest
    else refuse embedWanted c rest

def readObject (text : Bytes → Except Fault Value) (item : Reader Value) (b fuel : Bytes) :
    Except Fault (Value × Bytes) :=
  match nextKey true b with
  | .error f => .error f
  | .ok (.close rest) => .ok (.object [], rest)
  | .ok (.entry r) =>
    match readKey r with
    | .error f => .error f
    | .ok (key, rest) =>
      if key = embedKey then readEmbedded text rest
      else
        match item rest with
        | .error f => .error f
        | .ok (v, rest) =>
          match readMembers item [(key, v)] rest fuel with
          | .error f => .error f
          | .ok (ms, rest) => .ok (.object ms, rest)

/-- One value, with `inner` for the values inside it; without it nothing may nest here. -/
def readWith (text : Bytes → Except Fault Value) (inner : Option (Reader Value)) :
    Reader Value := fun b =>
  match skipBlank b with
  | [] => failHere .endInValue []
  | c :: rest =>
    if c = 0x5b ∨ c = 0x7b then
      match inner with
      | none => failHere .tooDeep rest
      | some item =>
        if c = 0x5b then
          match readItems item [] rest (c :: rest) with
          | .ok (vs, rest) => .ok (.array vs, rest)
          | .error f => .error f
        else readObject text item rest (c :: rest)
    else readScalar c rest

def readValue (text : Bytes → Except Fault Value) : (depth : Nat) → Reader Value
  | 0 => readWith text none
  | depth + 1 => readWith text (some (readValue text depth))

def whole {α : Type} (reader : Reader α) (b : Bytes) : Except Fault α :=
  match reader b with
  | .error f => .error f
  | .ok (v, rest) =>
    match skipBlank rest with
    | [] => .ok v
    | t => failNext .trailingInput t

/-- Texts are read inside texts at most as deep as the fuel is long. Each is shorter than the one
    it stands in, so the outermost is fuel enough. -/
def readNested : (fuel : Bytes) → Bytes → Except Fault Value
  | [] => fun _ => failHere .endInValue []
  | _ :: fuel => whole (readValue (readNested fuel) deepest)

def read (b : Bytes) : Except Fault Value := readNested b b

end CommandGateway.Json
