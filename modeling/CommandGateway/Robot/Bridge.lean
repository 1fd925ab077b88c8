import CommandGateway.Actuator
import CommandGateway.Json.Printer
import CommandGateway.Net.Http
import CommandGateway.Net.Url

/- A robot behind a bridge that is reached by HTTP. Each service of the robot has a place on the
   bridge: a request there asks whether it exists, and one below it makes it speak. The network is
   external; it gives an answer to a request or none. -/
namespace CommandGateway.Robot

open Net

inductive Method where
  | get
  | post
  deriving DecidableEq, Repr

structure Request where
  method : Method
  target : Url
  contentType : Option String
  body : Bytes

structure Answer where
  status : StatusCode
  body : Bytes

abbrev Network (σ : Type) := Request → σ → Option Answer × σ

structure Bridge where
  host : String
  port : Nat

def Bridge.address (b : Bridge) : String := "http://" ++ b.host ++ ":" ++ toString b.port

def Bridge.place (b : Bridge) (service : String) : String := b.address ++ "/services/" ++ service

/-- A service that was found, and where it takes what it is to say. -/
structure Voice where
  service : String
  place : String

inductive Unanswered where
  | noUrl
  | unnameable (target : Url)
  | silence (target : Url)

def Unanswered.reason : Unanswered → String
  | .noUrl => "builder error"
  | .unnameable target => "builder error for url (" ++ target.text ++ ")"
  | .silence target => "error sending request for url (" ++ target.text ++ ")"

def send {σ : Type} (network : Network σ) (method : Method) (place : String)
    (contentType : Option String) (body : Bytes) (s : σ) : Except Unanswered Answer × σ :=
  match Url.ofText? place with
  | none => (.error .noUrl, s)
  | some target =>
    if target.isRequestable then
      match network ⟨method, target, contentType, body⟩ s with
      | (some answer, s) => (.ok answer, s)
      | (none, s) => (.error (.silence target), s)
    else (.error (.unnameable target), s)

def speechBody (text : String) : Bytes :=
  Text.utf8 (Json.Value.object [("text", .string text)]).render

def lookupReply (b : Bridge) (service : String) :
    Except Unanswered Answer → Except ActuatorError Voice
  | .error cause => .error (.unreachable b.address cause.reason)
  | .ok answer =>
    if isSuccess answer.status then .ok ⟨service, b.place service ++ "/speak"⟩
    else if answer.status = 404 then .error (.serviceNotFound service)
    else .error (.remote service ("lookup returned " ++ statusText answer.status))

def speechReply (service : String) : Except Unanswered Answer → Except ActuatorError Unit
  | .error cause => .error (.remote service cause.reason)
  | .ok answer =>
    if isSuccess answer.status then .ok ()
    else
      .error (.remote service
        ("speak returned " ++ statusText answer.status ++ ": " ++ Text.lossy answer.body))

def placeEvent (place : String) : Event :=
  ⟨.debug, "Looking up actuator service", [("url", place)]⟩

def bridged {σ : Type} (network : Network σ) (b : Bridge) : Connector σ Voice where
  lookup service s :=
    let (answer, s) := send network .get (b.place service) none [] s
    ((.returned (lookupReply b service answer), [placeEvent (b.place service)]), s)
  speak voice text s :=
    let (answer, s) :=
      send network .post voice.place (some "application/json") (speechBody text) s
    (.returned (speechReply voice.service answer), s)
  suspends := true

end CommandGateway.Robot
