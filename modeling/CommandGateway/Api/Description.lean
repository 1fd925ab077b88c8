import CommandGateway.Config
import CommandGateway.Json.Pretty

/- The description of the interface in the OpenAPI format: its operations by path, and the shapes
   of the documents that go in and out. -/
namespace CommandGateway.Api

open Json

inductive Schema where
  | ref (name : String)
  | scalar (types : List String) (format : Option String) (sample : Option Value)
  | list (items : Schema) (description : Option String) (sample : Option Value)
  | anything (description : Option String)
  | record (description : Option String) (required : List String)
      (properties : List (String × Schema))

inductive Verb where
  | get
  | post
  deriving DecidableEq, Repr

structure Response where
  status : Nat
  description : String
  content : Option (String × Schema)

structure Parameter where
  name : String
  description : String
  schema : Schema

structure Operation where
  verb : Verb
  summary : String
  description : Option String
  name : String
  parameters : List Parameter
  body : Option Schema
  responses : List Response

structure Description where
  title : String
  version : String
  operations : List (String × Operation)
  schemas : List (String × Schema)
  tags : List (String × String)

def optional (key : String) (v : Option Value) : List Member := (v.map (key, ·)).toList

def textMember (key : String) (s : Option String) : List Member := optional key (s.map .string)

def typeMember : List String → Member
  | [name] => ("type", .string name)
  | names => ("type", .array (names.map .string))

mutual
def Schema.toJson : Schema → Value
  | .ref name => .object [("$ref", .string ("#/components/schemas/" ++ name))]
  | .scalar types format sample =>
    .object (typeMember types :: (textMember "format" format ++ optional "example" sample))
  | .list items description sample =>
    .object (typeMember ["array"] :: ("items", items.toJson) ::
      (textMember "description" description ++ optional "example" sample))
  | .anything description => .object (textMember "description" description)
  | .record description required properties =>
    .object (typeMember ["object"] :: (textMember "description" description ++
      [("required", .array (required.map .string)),
        ("properties", .object (propertiesJson properties))]))

def propertiesJson : List (String × Schema) → List Member
  | [] => []
  | (name, schema) :: rest => (name, schema.toJson) :: propertiesJson rest
end

def contentJson (content : String × Schema) : Value :=
  .object [(content.1, .object [("schema", content.2.toJson)])]

def Response.toJson (r : Response) : Value :=
  .object (("description", .string r.description) :: optional "content" (r.content.map contentJson))

def Parameter.toJson (p : Parameter) : Value :=
  .object [("name", .string p.name), ("in", .string "path"),
    ("description", .string p.description), ("required", .bool true), ("schema", p.schema.toJson)]

def bodyJson (schema : Schema) : Value :=
  .object [("content", contentJson ("application/json", schema)), ("required", .bool true)]

def Verb.key : Verb → String
  | .get => "get"
  | .post => "post"

def Operation.parametersJson (o : Operation) : Option Value :=
  if o.parameters.isEmpty then none else some (.array (o.parameters.map Parameter.toJson))

def Operation.toJson (o : Operation) : Value :=
  .object [(o.verb.key, .object
    (("tags", .array [.string "handlers"]) :: ("summary", .string o.summary) ::
      (textMember "description" o.description ++ [("operationId", .string o.name)] ++
        optional "parameters" o.parametersJson ++
        optional "requestBody" (o.body.map bodyJson) ++
        [("responses", .object (o.responses.map fun r => (toString r.status, r.toJson)))])))]

def tagJson (tag : String × String) : Value :=
  .object [("name", .string tag.1), ("description", .string tag.2)]

def Description.toJson (d : Description) : Value :=
  .object [("openapi", .string "3.1.0"),
    ("info", .object [("title", .string d.title), ("description", .string ""),
      ("license", .object [("name", .string "")]), ("version", .string d.version)]),
    ("paths", .object (d.operations.map fun o => (o.1, o.2.toJson))),
    ("components", .object [("schemas", .object (d.schemas.map fun s => (s.1, s.2.toJson)))]),
    ("tags", .array (d.tags.map tagJson))]

def text (sample : Option Value) : Schema := .scalar ["string"] none sample

def sampleText (s : String) : Schema := text (some (.string s))

def uuidSchema : Schema := .scalar ["string"] (some "uuid") none

def jsonContent (name : String) : String × Schema := ("application/json", .ref name)

def landingOperation : Operation where
  verb := .get
  summary := "Serve the landing page."
  description := none
  name := "index"
  parameters := []
  body := none
  responses := [⟨200, "Landing page", some ("text/html", text none)⟩]

def healthOperation : Operation where
  verb := .get
  summary := "Report liveness and the active execution settings."
  description := none
  name := "health"
  parameters := []
  body := none
  responses := [⟨200, "Service is up", some (jsonContent "HealthResponse")⟩]

def submitText : String :=
  "\n".intercalate
    ["In asynchronous mode the batch is queued and `202 Accepted` is returned",
      "immediately with a `Location` header for polling. In synchronous mode the",
      "batch runs before the response and `200 OK` is returned. Per-command",
      "results are never part of this response. The path shown is the default",
      "and follows `COMMANDS_PATH`."]

def submitOperation : Operation where
  verb := .post
  summary := "Submit a batch of commands for the robot."
  description := some submitText
  name := "submit_commands"
  parameters := []
  body := some (.ref "CommandBatchPayload")
  responses :=
    [⟨200, "Batch processed (synchronous mode)", none⟩,
      ⟨202, "Batch accepted for processing (asynchronous mode)", none⟩,
      ⟨400, "Missing or empty commands", none⟩,
      ⟨503, "Command queue is full or shutting down", some (jsonContent "ErrorResponse")⟩]

def statusOperation : Operation where
  verb := .get
  summary := "Look up the status of a queued batch."
  description := none
  name := "get_command_status"
  parameters := [⟨"id", "Batch ID from the Location header", uuidSchema⟩]
  body := none
  responses :=
    [⟨200, "Batch status", some (jsonContent "JobStatusResponse")⟩,
      ⟨404, "Unknown or expired batch", some (jsonContent "ErrorResponse")⟩]

def schemas : List (String × Schema) :=
  [("CommandBatchPayload",
      .record (some "The body of a command submission. `commands` must be a non-empty list.")
        ["commands"] [("commands", .list (.ref "CommandPayload") none none)]),
    ("CommandPayload",
      .record (some "One command in a batch.") ["type"]
        [("args",
            .list (.anything none) (some "Scalars or nulls; nulls are ignored.")
              (some (.array [.string "Hello", .string "World"]))),
          ("type", sampleText "say_something")]),
    ("ErrorResponse", .record none ["message"] [("message", text none)]),
    ("HealthResponse",
      .record none ["status", "offline", "mode"]
        [("mode", sampleText "async"), ("offline", .scalar ["boolean"] none none),
          ("status", sampleText "ok")]),
    ("JobStatusResponse",
      .record none ["id", "state"]
        [("error", .scalar ["string", "null"] none none), ("id", uuidSchema),
          ("report", .anything (some "Per-command results, once the batch has completed.")),
          ("state", sampleText "completed")])]

def statusPath (commandsPath : String) : String := commandsPath ++ "/\x7bid\x7d"

def operations : List (String × Operation) :=
  [("/", landingOperation), (defaultCommandsPath, submitOperation),
    (statusPath defaultCommandsPath, statusOperation), ("/health", healthOperation)]

/-- What stands in a text behind its start, if that is the given one. -/
def behind? (front path : List Char) : Option (List Char) :=
  if front.isPrefixOf path then some (path.drop front.length) else none

def relocate (commandsPath path : String) : String :=
  match behind? defaultCommandsPath.toList path.toList with
  | some rest => commandsPath ++ String.ofList rest
  | none => path

/-- The operations at their new paths. Of two that come to one path the later stays. -/
def movedOperations (commandsPath : String) : List (String × Operation) :=
  sortMembers (operations.map fun entry => (relocate commandsPath entry.1, entry.2))

def describe (commandsPath : String) : Description where
  title := "relay-api"
  version := "0.1.0"
  operations :=
    if commandsPath = defaultCommandsPath then operations else movedOperations commandsPath
  schemas := schemas
  tags := [("Relay API", "Command gateway for the robot")]

end CommandGateway.Api
