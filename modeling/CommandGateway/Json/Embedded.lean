import CommandGateway.Json.Reader

/- Embedded values in a document that has been read already. Members stand in sorted order there,
   so an object may only now show the key of an embedded value first. -/
namespace CommandGateway.Json

def embedded? : List Member → Option (Value × Nat)
  | (key, v) :: rest => if key = embedKey then some (v, rest.length + 1) else none
  | [] => none

/-- The value that an object of `count` members embeds as the text `v`. -/
def openEmbedded (v : Value) (count : Nat) : Except String Value :=
  match v with
  | .string s =>
    match read (Text.utf8 s) with
    | .error f => .error (f.message (Text.utf8 s))
    | .ok inner =>
      if count = 1 then .ok inner
      else .error (Cause.tooShort count "fewer elements in map").describe
  | v => .error (mismatchText (Found.ofValue v) embedWanted)

mutual
def Value.resolve : Value → Except String Value
  | .array items =>
    match resolveItems items with
    | .error reason => .error reason
    | .ok vs => .ok (.array vs)
  | .object members =>
    match embedded? members with
    | some (v, count) => openEmbedded v count
    | none =>
      match resolveMembers members with
      | .error reason => .error reason
      | .ok ms => .ok (.object ms)
  | .null => .ok .null
  | .bool b => .ok (.bool b)
  | .int n => .ok (.int n)
  | .float bits => .ok (.float bits)
  | .string s => .ok (.string s)

def resolveItems : List Value → Except String (List Value)
  | [] => .ok []
  | v :: vs =>
    match v.resolve with
    | .error reason => .error reason
    | .ok w =>
      match resolveItems vs with
      | .error reason => .error reason
      | .ok ws => .ok (w :: ws)

def resolveMembers : List Member → Except String (List Member)
  | [] => .ok []
  | (key, v) :: ms =>
    match v.resolve with
    | .error reason => .error reason
    | .ok w =>
      match resolveMembers ms with
      | .error reason => .error reason
      | .ok ns => .ok ((key, w) :: ns)
end

end CommandGateway.Json
