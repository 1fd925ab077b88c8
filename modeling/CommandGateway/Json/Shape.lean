import CommandGateway.Json.Skip
import CommandGateway.Json.Found

/- Texts that must have a certain shape. They are read and checked in one pass, so the first
   thing wrong is told with its place. A record may also be written as an array of its fields in
   order; members of other names are passed over. -/
namespace CommandGateway.Json

/-- `nullable` also admits `null`. A field without a fallback must be there. -/
inductive Shape where
  | any
  | text
  | flag
  | list (item : Shape)
  | nullable (inner : Shape)
  | record (name : String) (fields : List (String × Option Value × Shape))

/-- A field whose shape has become a reader for it, given how deep values in it may nest. -/
structure FieldReader where
  name : String
  fallback : Option Value
  reader : Nat → Reader Value

def lengthText (name : String) (fields : Nat) : String :=
  name ++ " with " ++ toString fields ++ (if fields = 1 then " element" else " elements")

/-- Where a reader stands that has given up inside an array, and inside an object. -/
def leaveArray (b : Bytes) : Bytes :=
  match skipBlank b with
  | 0x5d :: rest => rest
  | 0x2c :: rest => skipBlank rest
  | rest => rest

def leaveObject (b : Bytes) : Bytes :=
  match skipBlank b with
  | 0x7d :: rest => rest
  | rest => rest

def endArray (b : Bytes) : Except Fault Bytes :=
  match skipBlank b with
  | [] => failHere .endInList []
  | c :: rest =>
    if c = 0x5d then .ok rest
    else if c = 0x2c then
      match skipBlank rest with
      | 0x5d :: t => failHere .trailingComma t
      | t => failNext .trailingInput t
    else failHere .trailingInput rest

def readRow (name : String) (count depth : Nat) (done : List Member) (b : Bytes) :
    List FieldReader → Except Fault (List Member × Bytes)
  | [] =>
    match endArray b with
    | .error f => .error f
    | .ok rest => .ok (done.reverse, rest)
  | field :: fields =>
    match nextItem done.isEmpty b with
    | .error f => .error f
    | .ok (.close _) =>
      match field.fallback with
      | some v => readRow name count depth ((field.name, v) :: done) b fields
      | none => failHere (.tooShort done.length (lengthText name count)) (leaveArray b)
    | .ok (.entry r) =>
      match field.reader depth r with
      | .error f => .error f
      | .ok (v, rest) => readRow name count depth ((field.name, v) :: done) rest fields

def arrange (found : List Member) : List FieldReader → Except Cause (List Member)
  | [] => .ok []
  | field :: fields =>
    match (lookup field.name found).or field.fallback, arrange found fields with
    | none, _ => .error (.missing field.name)
    | some _, .error cause => .error cause
    | some v, .ok rest => .ok ((field.name, v) :: rest)

def readNamed (fields : List FieldReader) (depth : Nat) (first : Bool) (found : List Member)
    (b : Bytes) : (fuel : Bytes) → Except Fault (List Member × Bytes)
  | [] => failHere .endInObject b
  | _ :: fuel =>
    match nextKey first b with
    | .error f => .error f
    | .ok (.close rest) =>
      match arrange found fields with
      | .error cause => failHere cause rest
      | .ok members => .ok (members, rest)
    | .ok (.entry r) =>
      match readText r with
      | .error f => .error f
      | .ok (key, rest) =>
        match fields.find? (·.name = key) with
        | none =>
          match readColon rest with
          | .error f => .error f
          | .ok t =>
            match skipValue t with
            | .error f => .error f
            | .ok t => readNamed fields depth false found t fuel
        | some field =>
          if (lookup key found).isSome then failHere (.duplicate key) (leaveObject rest)
          else
            match readColon rest with
            | .error f => .error f
            | .ok t =>
              match field.reader depth t with
              | .error f => .error f
              | .ok (v, t) => readNamed fields depth false ((key, v) :: found) t fuel

def readRecord (name : String) (fields : List FieldReader) (depth : Nat) : Reader Value := fun b =>
  match skipBlank b with
  | [] => failHere .endInValue []
  | c :: rest =>
    if c = 0x5b ∨ c = 0x7b then
      match depth with
      | 0 => failHere .tooDeep rest
      | depth + 1 =>
        let members :=
          if c = 0x5b then readRow name fields.length depth [] rest fields
          else readNamed fields depth true [] rest (c :: rest)
        match members with
        | .error f => .error f
        | .ok (ms, t) => .ok (.object ms, t)
    else refuse name c rest

def readList (item : Nat → Reader Value) (depth : Nat) : Reader Value := fun b =>
  match skipBlank b with
  | [] => failHere .endInValue []
  | c :: rest =>
    if c = 0x5b then
      match depth with
      | 0 => failHere .tooDeep rest
      | depth + 1 =>
        match readItems (item depth) [] rest (c :: rest) with
        | .error f => .error f
        | .ok (vs, t) => .ok (.array vs, t)
    else refuse "a sequence" c rest

/-- A value that is neither a list nor a record, if `admits` says that it is wanted. -/
def readPlain (wanted : String) (admits : UInt8 → Bool) : Reader Value := fun b =>
  match skipBlank b with
  | [] => failHere .endInValue []
  | c :: rest => if admits c then readScalar c rest else refuse wanted c rest

mutual
def Shape.reader (text : Bytes → Except Fault Value) : Shape → (depth : Nat) → Reader Value
  | .any => readValue text
  | .text => fun _ => readPlain "a string" (· = 0x22)
  | .flag => fun _ => readPlain "a boolean" fun c => c = 0x74 || c = 0x66
  | .list item => readList (item.reader text)
  | .nullable inner => fun depth b =>
    match skipBlank b with
    | 0x6e :: rest => readNull rest
    | _ => inner.reader text depth b
  | .record name fields => readRecord name (fieldReaders text fields)

def fieldReaders (text : Bytes → Except Fault Value) :
    List (String × Option Value × Shape) → List FieldReader
  | [] => []
  | (name, fallback, shape) :: fields =>
    ⟨name, fallback, shape.reader text⟩ :: fieldReaders text fields
end

def Shape.read (shape : Shape) (b : Bytes) : Except Fault Value :=
  whole (shape.reader (readNested b) deepest) b

end CommandGateway.Json
