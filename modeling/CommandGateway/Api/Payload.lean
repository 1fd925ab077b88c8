import CommandGateway.Command.Text

/- The request body and the health answer as the interface documents them. Unlike the check that
   requests really pass, the documented body wants a tag that is a text, and allows no `null`
   for the arguments. -/
namespace CommandGateway.Api

open Json

structure CommandPayload where
  kind : String
  args : List Value

structure BatchPayload where
  commands : List CommandPayload

structure Health where
  status : String
  offline : Bool
  mode : String

def CommandPayload.shape : Shape :=
  .record "struct CommandPayload"
    [("type", none, .text), ("args", some (.array []), argumentsShape)]

def BatchPayload.shape : Shape :=
  .record "struct CommandBatchPayload" [("commands", none, .list CommandPayload.shape)]

def Health.shape : Shape :=
  .record "struct HealthResponse"
    [("status", none, .text), ("offline", none, .flag), ("mode", none, .text)]

def textAt (key : String) (members : List Member) : String :=
  ((lookup key members).bind Value.text?).getD ""

def CommandPayload.ofJson : Value → CommandPayload
  | .object members => ⟨textAt "type" members, itemsOf (lookup "args" members)⟩
  | _ => ⟨"", []⟩

def CommandPayload.toJson (p : CommandPayload) : Value :=
  .object [("type", .string p.kind), ("args", .array p.args)]

def BatchPayload.toJson (p : BatchPayload) : Value :=
  .object [("commands", .array (p.commands.map CommandPayload.toJson))]

def Health.toJson (h : Health) : Value :=
  .object [("status", .string h.status), ("offline", .bool h.offline), ("mode", .string h.mode)]

def BatchPayload.read (b : Bytes) : Except Fault BatchPayload :=
  match BatchPayload.shape.read b with
  | .error f => .error f
  | .ok (.object members) => .ok ⟨(itemsOf (lookup "commands" members)).map CommandPayload.ofJson⟩
  | .ok _ => .ok ⟨[]⟩

def Health.read (b : Bytes) : Except Fault Health :=
  match Health.shape.read b with
  | .error f => .error f
  | .ok (.object members) =>
    .ok ⟨textAt "status" members,
      match lookup "offline" members with
      | some (.bool offline) => offline
      | _ => false,
      textAt "mode" members⟩
  | .ok _ => .ok ⟨"", false, ""⟩

end CommandGateway.Api
