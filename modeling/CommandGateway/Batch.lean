import CommandGateway.Command
import CommandGateway.Json.Embedded

/- Batches: the commands of one request, in order, and never none. A request body is checked from
   the outside inwards, so the first thing wrong with it is the reason for refusing it. -/
namespace CommandGateway

open Json

inductive BatchError where
  | invalidJson (reason : String)
  | notAnObject
  | missingCommands
  | commandsNotAList
  | emptyCommands
  | malformedCommand (index : Nat) (reason : String)
  deriving DecidableEq, Repr

def BatchError.message : BatchError → String
  | .invalidJson reason => "request body is not valid JSON: " ++ reason
  | .notAnObject => "request body is not a JSON object"
  | .missingCommands => "missing or empty commands: no `commands` field"
  | .commandsNotAList => "missing or empty commands: `commands` is not a list"
  | .emptyCommands => "missing or empty commands: `commands` is empty"
  | .malformedCommand index reason =>
    "command #" ++ toString index ++ " is malformed: " ++ reason

structure Batch where
  commands : List Command
  nonempty : commands ≠ []

def Batch.size (b : Batch) : Nat := b.commands.length

def Batch.ofCommands (commands : List Command) : Except BatchError Batch :=
  if h : commands = [] then .error .emptyCommands else .ok ⟨commands, h⟩

/-- The arguments among the members of a command: a list, or none when absent or `null`. -/
def argumentsOf (members : List Member) : Except String (List Value) :=
  match lookup "args" members with
  | none => .ok []
  | some .null => .ok []
  | some (.array items) => resolveItems items
  | some v => .error (mismatchText (Found.ofValue v) "a sequence")

def kindOf (members : List Member) : Except String CommandType :=
  match lookup "type" members with
  | none => .ok (.unknown none)
  | some v =>
    match v.resolve with
    | .error reason => .error reason
    | .ok tag => .ok (CommandType.ofJson tag)

/-- Members other than the tag and the arguments do not matter. -/
def Command.ofJson : Value → Except String Command
  | .object members =>
    match argumentsOf members, kindOf members with
    | .error reason, _ => .error reason
    | .ok _, .error reason => .error reason
    | .ok args, .ok kind => .ok ⟨kind, args⟩
  | _ => .error "expected an object"

def commandsFrom (index : Nat) : List Value → Except BatchError (List Command)
  | [] => .ok []
  | v :: vs =>
    match Command.ofJson v with
    | .error reason => .error (.malformedCommand index reason)
    | .ok command =>
      match commandsFrom (index + 1) vs with
      | .error e => .error e
      | .ok commands => .ok (command :: commands)

def Batch.ofJson : Value → Except BatchError Batch
  | .object members =>
    match lookup "commands" members with
    | none => .error .missingCommands
    | some .null => .error .missingCommands
    | some (.array items) =>
      match commandsFrom 0 items with
      | .error e => .error e
      | .ok commands => Batch.ofCommands commands
    | some _ => .error .commandsNotAList
  | _ => .error .notAnObject

def Batch.ofBytes (body : Bytes) : Except BatchError Batch :=
  match read body with
  | .error fault => .error (.invalidJson (fault.message body))
  | .ok v => Batch.ofJson v

end CommandGateway
