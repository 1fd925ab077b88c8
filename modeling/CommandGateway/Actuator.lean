/- Actuators: named services of the robot that can speak. How a call ends is part of its answer:
   it may succeed, be refused with an error, or panic. -/
namespace CommandGateway

inductive ActuatorError where
  | serviceNotFound (service : String)
  | unreachable (address reason : String)
  | remote (service reason : String)
  deriving DecidableEq, Repr

def ActuatorError.message : ActuatorError → String
  | .serviceNotFound service => "actuator service '" ++ service ++ "' was not found"
  | .unreachable address reason =>
    "actuator bridge at " ++ address ++ " is unreachable: " ++ reason
  | .remote service reason => "actuator service '" ++ service ++ "' failed: " ++ reason

/-- What a panic carries: a text, or something that is none. -/
inductive Panic where
  | text (s : String)
  | other
  deriving DecidableEq, Repr

def Panic.message : Panic → String
  | .text s => s
  | .other => "unknown panic"

inductive Ended (α : Type) where
  | returned (a : α)
  | panicked (p : Panic)
  deriving DecidableEq, Repr

abbrev Reply (α : Type) := Ended (Except ActuatorError α)

inductive Level where
  | error
  | warn
  | info
  | debug
  | trace
  deriving DecidableEq, Repr

def Level.name : Level → String
  | .error => "ERROR"
  | .warn => "WARN"
  | .info => "INFO"
  | .debug => "DEBUG"
  | .trace => "TRACE"

structure Event where
  level : Level
  message : String
  fields : List (String × String)
  deriving DecidableEq, Repr

/-- A robot whose state is `σ` and whose actuators are reached through handles `H`. A lookup also
    says what it logs, and `suspends` says whether other work gets a turn before its answer. -/
structure Connector (σ H : Type) where
  lookup : String → σ → (Reply H × List Event) × σ
  speak : H → String → σ → Reply Unit × σ
  suspends : Bool

end CommandGateway
