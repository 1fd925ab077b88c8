import CommandGateway.Actuator
import CommandGateway.Config.Dotenv
import CommandGateway.Net.Socket
import CommandGateway.Text.Lowercase

/- The configuration, read from environment variables. Each field has a variable of its own and a
   default for when that is not set; the first variable that breaks its rule is reported. -/
namespace CommandGateway

inductive ConfigError where
  | missing (name : String)
  | invalid (name reason : String)
  deriving DecidableEq, Repr

def ConfigError.message : ConfigError → String
  | .missing name => "Missing environment variable: " ++ name
  | .invalid name reason => "Invalid value for environment variable " ++ name ++ ": " ++ reason

inductive ExecutionMode where
  | sync
  | async
  deriving DecidableEq, Repr

def ExecutionMode.name : ExecutionMode → String
  | .sync => "sync"
  | .async => "async"

def ExecutionMode.ofText (s : String) : Except String ExecutionMode :=
  let word := Text.lowercase s
  if word = "sync" then .ok .sync
  else if word = "async" then .ok .async
  else .error ("'" ++ word ++ "' is not one of 'sync' or 'async'")

def defaultCommandsPath : String := "/api/commands"

structure Config where
  bindAddress : Net.Socket
  robotHost : String
  robotPort : Nat
  offline : Bool
  mode : ExecutionMode
  workers : Nat
  capacity : Nat
  retained : Nat
  service : String
  commandsPath : String
  logLevel : Level

def Config.default : Config where
  bindAddress := .v4 .unspecified 5000
  robotHost := "192.168.2.196"
  robotPort := 9559
  offline := true
  mode := .async
  workers := 1
  capacity := 64
  retained := 256
  service := "ALTextToSpeech"
  commandsPath := defaultCommandsPath
  logLevel := .info

inductive NumberFault where
  | empty
  | invalidDigit
  | tooLarge
  deriving DecidableEq, Repr

def NumberFault.message : NumberFault → String
  | .empty => "cannot parse integer from empty string"
  | .invalidDigit => "invalid digit found in string"
  | .tooLarge => "number too large to fit in target type"

def readDigits (bound value : Nat) : List Char → Except NumberFault Nat
  | [] => .ok value
  | c :: cs =>
    match Net.digitOf? 10 c with
    | none => .error .invalidDigit
    | some d =>
      if value * 10 + d < bound then readDigits bound (value * 10 + d) cs else .error .tooLarge

def readNatural (bound : Nat) (s : String) : Except NumberFault Nat :=
  match s.toList with
  | [] => .error .empty
  | ['+'] => .error .invalidDigit
  | '+' :: digits => readDigits bound 0 digits
  | digits => readDigits bound 0 digits

def portBound : Nat := Nat.pow 2 16

def countBound : Nat := Nat.pow 2 64

def naturalOf (bound : Nat) (s : String) : Except String Nat :=
  match readNatural bound s with
  | .ok n => .ok n
  | .error fault => .error fault.message

def countOf (s : String) : Except String Nat :=
  match naturalOf countBound s with
  | .ok 0 => .error "must be at least 1"
  | result => result

def addressOf (s : String) : Except String Net.Socket :=
  match Net.Socket.ofText? s with
  | some address => .ok address
  | none => .error "invalid socket address syntax"

def flagOf (raw : String) : Except String Bool :=
  let word := Text.lowercase (Text.trim raw)
  if ["1", "true", "yes", "on"].contains word then .ok true
  else if ["0", "false", "no", "off"].contains word then .ok false
  else .error ("'" ++ raw ++ "' is not a boolean")

def levels : List Level := [.error, .warn, .info, .debug, .trace]

/-- A level by its number or by its name in either case. -/
def levelOf (raw : String) : Except String Level :=
  let numbered : Option Level :=
    match readNatural countBound raw with
    | .ok 0 => none
    | .ok (n + 1) => levels[n]?
    | .error _ => none
  let upper := raw.map Char.toUpper
  let named := levels.find? fun level => level.name = upper
  match numbered.orElse fun _ => named with
  | some level => .ok level
  | none => .error ("'" ++ raw ++ "' is not a valid log level")

def isPathChar (c : Char) : Bool := c.isAlphanum || ['/', '-', '_', '.'].contains c

def pathOf (raw : String) : Except String String :=
  let cs := raw.toList
  if cs.head? = some '/' ∧ 2 ≤ cs.length ∧ cs.getLast? ≠ some '/' ∧ cs.all isPathChar then .ok raw
  else
    .error ("'" ++ raw ++
      "' must start with '/', not end with '/', and use only [A-Za-z0-9/._-]")

def Environment.value {α : Type} (env : Environment) (name : String) (fallback : α)
    (read : String → Except String α) : Except ConfigError α :=
  match env.get? name with
  | none => .ok fallback
  | some raw =>
    match read raw with
    | .ok a => .ok a
    | .error reason => .error (.invalid name reason)

/-- The same for a variable in which blanks at the ends do not count. -/
def Environment.trimmed {α : Type} (env : Environment) (name : String) (fallback : α)
    (read : String → Except String α) : Except ConfigError α :=
  env.value name fallback fun raw => read (Text.trim raw)

def Environment.hostName (env : Environment) (name fallback : String) :
    Except ConfigError String :=
  match env.get? name with
  | none => .ok fallback
  | some raw =>
    if Text.isBlankText raw then .error (.missing (name ++ " must not be empty")) else .ok raw

def Config.ofEnvironment (env : Environment) : Except ConfigError Config := do
  let bindAddress ← env.trimmed "BIND_ADDRESS" Config.default.bindAddress addressOf
  let robotHost ← env.hostName "ROBOT_HOST" Config.default.robotHost
  let robotPort ← env.trimmed "ROBOT_PORT" Config.default.robotPort (naturalOf portBound)
  let offline ← env.value "OFFLINE_MODE" Config.default.offline flagOf
  let mode ← env.trimmed "EXECUTION_MODE" Config.default.mode ExecutionMode.ofText
  let workers ← env.trimmed "WORKER_COUNT" Config.default.workers countOf
  let capacity ← env.trimmed "QUEUE_CAPACITY" Config.default.capacity countOf
  let retained ← env.trimmed "RETAINED_JOBS" Config.default.retained (naturalOf countBound)
  let service ← env.value "TTS_SERVICE" Config.default.service .ok
  let commandsPath ← env.value "COMMANDS_PATH" Config.default.commandsPath pathOf
  let logLevel ← env.value "RUST_LOG" Config.default.logLevel levelOf
  .ok {
    bindAddress, robotHost, robotPort, offline, mode, workers, capacity, retained, service,
    commandsPath, logLevel }

def Config.load (env : Environment) (file : Option Bytes) : Except ConfigError Config :=
  Config.ofEnvironment (file.elim env (Dotenv.load env))

/-- Loads the configuration as the program does, which panics at a variable that it cannot set. -/
def Config.obtain (env : Environment) (file : Option Bytes) :
    Ended (Except ConfigError Config) :=
  match file with
  | none => .returned (Config.load env none)
  | some file =>
    match Dotenv.apply env file with
    | .returned whole => .returned (Config.load whole none)
    | .panicked p => .panicked p

end CommandGateway
