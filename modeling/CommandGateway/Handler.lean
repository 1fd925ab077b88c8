import CommandGateway.Command
import CommandGateway.Work
import CommandGateway.Text.Blank

/- Handlers: what is done for a command of a known kind. -/
namespace CommandGateway

open Json

inductive SkipReason where
  | actuatorUnavailable
  | actuatorUnresolved
  | noArguments
  | noValidText
  deriving DecidableEq, Repr

def SkipReason.display : SkipReason → String
  | .actuatorUnavailable => "actuator unavailable"
  | .actuatorUnresolved => "actuator could not be resolved"
  | .noArguments => "no arguments"
  | .noValidText => "no valid text"

def SkipReason.wireName : SkipReason → String
  | .actuatorUnavailable => "actuator_unavailable"
  | .actuatorUnresolved => "actuator_unresolved"
  | .noArguments => "no_arguments"
  | .noValidText => "no_valid_text"

inductive Outcome where
  | performed
  | skipped (reason : SkipReason)
  deriving DecidableEq, Repr

inductive CommandError where
  | actuator (e : ActuatorError)
  deriving DecidableEq, Repr

def CommandError.message : CommandError → String
  | .actuator e => "actuator call failed: " ++ e.message

abbrev Handled := Ended (Except CommandError Outcome)

/-- A handler that was called either gave back work to do, or panicked before it had any. -/
inductive Called (H : Type) where
  | started (work : Work H Handled)
  | panicked (p : Panic)

abbrev Handler (H : Type) := List Value → Called H

def skip {H : Type} (event : Event) (reason : SkipReason) : Work H Handled :=
  .log event (.done (.returned (.ok (.skipped reason))))

def unavailableEvent (service : String) (error : Option ActuatorError) : Event :=
  ⟨.warn, "Text-to-speech actuator unavailable",
    ("service", service) :: (error.map fun e => ("error", e.message)).toList⟩

def noArgumentsEvent : Event := ⟨.warn, "No arguments to say", []⟩

def noTextEvent : Event := ⟨.warn, "No valid text to say", []⟩

def sayingEvent (text : String) : Event := ⟨.info, "Saying", [("text", text)]⟩

def sayThrough {H : Type} (handle : H) (args : List Value) : Work H Handled :=
  if args.isEmpty then skip noArgumentsEvent .noArguments
  else
    let text := joinArgs args
    if Text.isBlankText text then skip noTextEvent .noValidText
    else
      .log (sayingEvent text) <| .speak handle text fun
        | .returned (.ok ()) => .done (.returned (.ok .performed))
        | .returned (.error e) => .done (.returned (.error (.actuator e)))
        | .panicked p => .done (.panicked p)

/-- Acquires the service before it looks at the arguments. -/
def say {H : Type} (service : String) : Handler H := fun args =>
  .started <| .acquire service fun
    | .returned (.ok (some handle)) => sayThrough handle args
    | .returned (.ok none) => skip (unavailableEvent service none) .actuatorUnavailable
    | .returned (.error e) => skip (unavailableEvent service (some e)) .actuatorUnresolved
    | .panicked p => .done (.panicked p)

structure Registry (H : Type) where
  handlers : List (CommandKind × Handler H)

def Registry.empty {H : Type} : Registry H := ⟨[]⟩

def Registry.register {H : Type} (r : Registry H) (kind : CommandKind) (handler : Handler H) :
    Registry H :=
  ⟨(kind, handler) :: r.handlers.filter (·.1 ≠ kind)⟩

def Registry.get? {H : Type} (r : Registry H) (kind : CommandKind) : Option (Handler H) :=
  (r.handlers.find? (·.1 = kind)).map (·.2)

def Registry.size {H : Type} (r : Registry H) : Nat := r.handlers.length

def Registry.standard {H : Type} (service : String) : Registry H :=
  Registry.empty.register .saySomething (say service)

end CommandGateway
