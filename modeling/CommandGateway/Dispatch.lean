import CommandGateway.Batch
import CommandGateway.Handler
import CommandGateway.Json.Shown

/- Dispatching a batch: its commands one after another, each with a status of its own. Nothing a
   command does in its work stops the ones after it; a handler that panics before it has any work
   stops the whole batch. -/
namespace CommandGateway

open Json

inductive CommandStatus where
  | performed
  | skipped (reason : SkipReason)
  | unknownType
  | failed (error : String)
  deriving DecidableEq, Repr

structure CommandReport where
  index : Nat
  kind : CommandType
  status : CommandStatus
  deriving DecidableEq, Repr

structure Report where
  commands : List CommandReport
  deriving DecidableEq, Repr

def Report.performed (r : Report) : Nat :=
  r.commands.countP fun c => c.status matches .performed

def Report.skipped (r : Report) : Nat :=
  r.commands.countP fun c => c.status matches .skipped _

def Report.unknown (r : Report) : Nat :=
  r.commands.countP fun c => c.status matches .unknownType

def Report.failed (r : Report) : Nat :=
  r.commands.countP fun c => c.status matches .failed _

def CommandStatus.members : CommandStatus → List Member
  | .performed => [("status", .string "performed")]
  | .skipped reason => [("status", .string "skipped"), ("reason", .string reason.wireName)]
  | .unknownType => [("status", .string "unknown_type")]
  | .failed error => [("status", .string "failed"), ("error", .string error)]

def CommandReport.toJson (c : CommandReport) : Value :=
  .object (("index", .int c.index) :: ("type", c.kind.toJson) :: c.status.members)

def Report.toJson (r : Report) : Value :=
  .object [("commands", .array (r.commands.map CommandReport.toJson))]

def position (index : Nat) (kind : CommandType) : List (String × String) :=
  [("index", toString index), ("kind", kind.display)]

def processingEvent (index : Nat) (command : Command) : Event :=
  ⟨.debug, "Processing command",
    position index command.kind ++
      [("args", "[" ++ ", ".intercalate (itemsShown command.args) ++ "]")]⟩

def failedEvent (index : Nat) (kind : CommandType) (error : String) : Event :=
  ⟨.error, "Command failed", position index kind ++ [("error", error)]⟩

def panickedEvent (index : Nat) (kind : CommandType) (p : Panic) : Event :=
  ⟨.error, "Handler panicked", position index kind ++ [("panic_msg", p.message)]⟩

def noHandlerEvent (index : Nat) (kind : CommandType) : Event :=
  ⟨.warn, "No handler registered for command type", position index kind⟩

def unknownTypeEvent (index : Nat) (kind : CommandType) : Event :=
  ⟨.warn, "Unknown command type", position index kind⟩

def processedEvent (r : Report) : Event :=
  ⟨.info, "Batch processed",
    [("performed", toString r.performed), ("skipped", toString r.skipped),
      ("unknown", toString r.unknown), ("failed", toString r.failed)]⟩

def rejectedEvent (e : BatchError) : Event :=
  ⟨.debug, "Rejected command batch", [("error", e.message)]⟩

def settle {H : Type} (index : Nat) (kind : CommandType) : Handled → Work H (Ended CommandStatus)
  | .returned (.ok .performed) => .done (.returned .performed)
  | .returned (.ok (.skipped reason)) => .done (.returned (.skipped reason))
  | .returned (.error e) =>
    .log (failedEvent index kind e.message) (.done (.returned (.failed e.message)))
  | .panicked p =>
    .log (panickedEvent index kind p)
      (.done (.returned (.failed ("handler panicked: " ++ p.message))))

def attempt {H : Type} (registry : Registry H) (index : Nat) (command : Command) :
    Work H (Ended CommandStatus) :=
  match command.kind with
  | .known kind =>
    match registry.get? kind with
    | some handler =>
      match handler command.args with
      | .started work => work.bind (settle index command.kind)
      | .panicked p => .done (.panicked p)
    | none => .log (noHandlerEvent index command.kind) (.done (.returned .unknownType))
  | .unknown _ => .log (unknownTypeEvent index command.kind) (.done (.returned .unknownType))

/-- Attempts the commands from position `index` on. Reports so far are kept latest first. -/
def attemptFrom {H : Type} (registry : Registry H) (index : Nat) (done : List CommandReport) :
    List Command → Work H (Ended (List CommandReport))
  | [] => .done (.returned done.reverse)
  | command :: rest =>
    .log (processingEvent index command) <|
      (attempt registry index command).bind fun
        | .panicked p => .done (.panicked p)
        | .returned status =>
          attemptFrom registry (index + 1) (⟨index, command.kind, status⟩ :: done) rest

def dispatch {H : Type} (registry : Registry H) (batch : Batch) : Work H (Ended Report) :=
  (attemptFrom registry 0 [] batch.commands).bind fun
    | .panicked p => .done (.panicked p)
    | .returned commands => .log (processedEvent ⟨commands⟩) (.done (.returned ⟨commands⟩))

inductive DispatchOutcome where
  | accepted (report : Report)
  | rejected (e : BatchError)
  deriving DecidableEq, Repr

def dispatchPayload {H : Type} (registry : Registry H) (body : Bytes) :
    Work H (Ended DispatchOutcome) :=
  match Batch.ofBytes body with
  | .error e => .log (rejectedEvent e) (.done (.returned (.rejected e)))
  | .ok batch =>
    (dispatch registry batch).bind fun
      | .panicked p => .done (.panicked p)
      | .returned report => .done (.returned (.accepted report))

end CommandGateway
