import CommandGateway.Command
import CommandGateway.Json.Embedded
import CommandGateway.Json.Shape

/- A single command, or a tag alone, as a JSON document of its own. -/
namespace CommandGateway

open Json

def argumentsShape : Shape := .list .any

def Command.shape : Shape :=
  .record "struct Command"
    [("type", some .null, .any), ("args", some (.array []), .nullable argumentsShape)]

def itemsOf : Option Value → List Value
  | some (.array items) => items
  | _ => []

/-- A missing tag is unknown, and missing arguments or `null` are none. -/
def Command.read (b : Bytes) : Except Fault Command :=
  match Command.shape.read b with
  | .error f => .error f
  | .ok (.object members) =>
    .ok ⟨((lookup "type" members).map CommandType.ofJson).getD (.unknown none),
      itemsOf (lookup "args" members)⟩
  | .ok _ => .ok ⟨.unknown none, []⟩

def CommandType.read (b : Bytes) : Except Fault CommandType :=
  match Json.read b with
  | .error f => .error f
  | .ok v => .ok (CommandType.ofJson v)

/-- The tag that a value says when the values embedded in it have taken their places. -/
def CommandType.decode (v : Value) : Except String CommandType :=
  match v.resolve with
  | .error reason => .error reason
  | .ok tag => .ok (CommandType.ofJson tag)

end CommandGateway
