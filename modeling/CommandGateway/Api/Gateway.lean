import CommandGateway.Api.Landing
import CommandGateway.Api.Payload
import CommandGateway.Api.Route
import CommandGateway.Api.Status
import CommandGateway.Engine.Rota
import CommandGateway.Net.Percent

/- The gateway: what is answered to a request. A batch is either dispatched while its request waits
   or queued for the workers; no answer to the request that brought a batch tells how its commands
   went. -/
namespace CommandGateway.Api

open Json Pool Engine

abbrev Header := String × String

structure Request where
  method : String
  target : String
  body : Bytes

structure Answer where
  status : Nat
  headers : List Header
  body : String
  deriving DecidableEq

structure Gateway (σ H : Type) where
  config : Config
  rota : Rota σ H

def poolFor (c : Config) : Pool :=
  match c.mode with
  | .sync => .absent
  | .async => Pool.start c.workers c.capacity c.retained

def Gateway.start {σ H : Type} (c : Config) (registry : Registry H) (accessor : Accessor σ H)
    (gate : Gate) : Gateway σ H :=
  ⟨c, Rota.start ⟨registry, .fresh accessor, [], poolFor c⟩ gate⟩

def Gateway.standard {σ H : Type} (c : Config) (accessor : Accessor σ H) (gate : Gate) :
    Gateway σ H :=
  .start c (.standard c.service) accessor gate

/-- Any site may send commands, and may read where their status is. -/
def openHeaders : List Header :=
  [("access-control-allow-origin", "*"),
    ("vary", "origin, access-control-request-method, access-control-request-headers")]

def exposed : Header := ("access-control-expose-headers", "location")

def preflightHeaders : List Header :=
  openHeaders ++ [("access-control-allow-headers", "*"), ("access-control-allow-methods", "*")]

def answerOf (status : Nat) (headers : List Header) (body : String) : Answer :=
  ⟨status, openHeaders ++ exposed :: headers, body⟩

def emptyAnswer (status : Nat) : Answer := answerOf status [] ""

def jsonAnswer (status : Nat) (v : Value) : Answer :=
  answerOf status [("content-type", "application/json")] v.render

def htmlAnswer (page : String) : Answer :=
  answerOf 200 [("content-type", "text/html; charset=utf-8")] page

def plainAnswer (status : Nat) (text : String) : Answer :=
  answerOf status [("content-type", "text/plain; charset=utf-8")] text

def explain (status : Nat) (message : String) : Answer :=
  jsonAnswer status (Explanation.mk message).toJson

def pathOfTarget (target : String) : String :=
  String.ofList (target.toList.takeWhile fun c => c ≠ '?' ∧ c ≠ '#')

/-- A request is answered at once, or waits for the end of its own errand. -/
inductive Handling (σ H : Type) where
  | answered (answer : Answer) (gateway : Gateway σ H)
  | waiting (request : Nat) (gateway : Gateway σ H)

def bodyLimit : Nat := 2097152

def tooLarge : Answer :=
  plainAnswer 413 "Failed to buffer the request body: length limit exceeded"

def Gateway.health {σ H : Type} (g : Gateway σ H) : Answer :=
  let health : Health :=
    ⟨"ok", g.rota.engine.scene.accessor.isOffline, g.config.mode.name⟩
  jsonAnswer 200 health.toJson

def locationOf (commandsPath : String) (id : Uuid) : String := commandsPath ++ "/" ++ id.text

def Gateway.queue {σ H : Type} (g : Gateway σ H) (fresh : Uuid) (body : Bytes) :
    Answer × Gateway σ H :=
  match Batch.ofBytes body with
  | .error _ => (emptyAnswer 400, g)
  | .ok batch =>
    match g.rota.submit fresh batch with
    | (.ok (), rota) =>
      (answerOf 202 [("location", locationOf g.config.commandsPath fresh)] "",
        { g with rota := rota })
    | (.error e, rota) => (explain 503 e.message, { g with rota := rota })

/-- The number of a request that waits is that of the errands before it. -/
def Gateway.submit {σ H : Type} (g : Gateway σ H) (fresh : Uuid) (body : Bytes) : Handling σ H :=
  if bodyLimit < body.length then .answered tooLarge g
  else
    match g.config.mode with
    | .sync =>
      let request := g.rota.engine.errands.length
      .waiting request { g with rota := g.rota.request request body }
    | .async =>
      let (answer, g) := g.queue fresh body
      .answered answer g

def unknownJob (id : Uuid) : Answer := explain 404 ("Batch with id '" ++ id.text ++ "' not found")

def Gateway.status {σ H : Type} (g : Gateway σ H) (segment : String) : Answer :=
  match Text.ofUtf8? (Net.percentDecode (Text.utf8 segment)) with
  | none => plainAnswer 400 "Invalid URL: Invalid UTF-8 in `id`"
  | some name =>
    match Uuid.parse name with
    | .error fault =>
      plainAnswer 400 ("Invalid URL: Cannot parse `id` with value `" ++ name ++
        "`: UUID parsing failed: " ++ fault.message)
    | .ok id =>
      match g.rota.engine.pool.tracker.get? id with
      | none => unknownJob id
      | some state => jsonAnswer 200 (Status.ofState id state).toJson

def verbsOf (routes : List (Mount × String)) : List Verb :=
  [.get, .post].filter fun verb => routes.any fun r => r.1.verb = verb

def Verb.methods : Verb → String
  | .get => "GET,HEAD"
  | .post => "POST"

def allowHeader (routes : List (Mount × String)) : List Header :=
  if routes.isEmpty then []
  else [("allow", ",".intercalate ((verbsOf routes).map Verb.methods))]

def verbOf? (method : String) : Option Verb :=
  if method = "GET" ∨ method = "HEAD" then some .get
  else if method = "POST" then some .post
  else none

/-- Pages of the documentation browser are external; here they have no content. -/
def Gateway.respond {σ H : Type} (g : Gateway σ H) (fresh : Uuid) (body : Bytes)
    (endpoint : Endpoint) (segment : String) : Handling σ H :=
  match endpoint with
  | .landing => .answered (htmlAnswer (landingPage g.config.commandsPath)) g
  | .health => .answered g.health g
  | .submit => g.submit fresh body
  | .status => .answered (g.status segment) g
  | .description => .answered (jsonAnswer 200 (describe g.config.commandsPath).toJson) g
  | .pages => .answered (htmlAnswer "") g

def withoutBody {σ H : Type} : Handling σ H → Handling σ H
  | .answered answer g => .answered { answer with body := "" } g
  | .waiting request g => .waiting request g

def Gateway.handle {σ H : Type} (g : Gateway σ H) (fresh : Uuid) (r : Request) : Handling σ H :=
  let routes := route g.config.commandsPath (pathOfTarget r.target)
  if r.method = "OPTIONS" then
    .answered ⟨200, preflightHeaders ++ allowHeader routes, ""⟩ g
  else if routes.isEmpty then .answered (emptyAnswer 404) g
  else
    match routes.find? fun m => some m.1.verb = verbOf? r.method with
    | none => .answered (answerOf 405 (allowHeader routes) "") g
    | some (mount, segment) =>
      let handling := g.respond fresh r.body mount.endpoint segment
      if r.method = "HEAD" then withoutBody handling else handling

def answerEnd : Ended DispatchOutcome → Answer
  | .returned (.accepted _) => emptyAnswer 200
  | .returned (.rejected _) => emptyAnswer 400
  | .panicked p => explain 503 ("batch task aborted: " ++ abortText p)

def Gateway.answer? {σ H : Type} (g : Gateway σ H) (request : Nat) : Option Answer :=
  match errandOf (.request request) g.rota.engine.errands with
  | none => none
  | some errand => errand.outcome?.map answerEnd

end CommandGateway.Api
