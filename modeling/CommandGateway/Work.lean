import CommandGateway.Actuator

/- Work that calls the robot, as the calls it makes and what it does with each answer. Nothing
   here says when an answer comes: `run` gives every answer at once, and a runtime may give other
   work a turn first. -/
namespace CommandGateway

/-- Work with handles `H` that ends with an `α`. Acquiring a handle yields none when offline. -/
inductive Work (H α : Type) where
  | done (a : α)
  | log (event : Event) (next : Work H α)
  | acquire (service : String) (next : Reply (Option H) → Work H α)
  | speak (handle : H) (text : String) (next : Reply Unit → Work H α)

def Work.bind {H α β : Type} (work : Work H α) (f : α → Work H β) : Work H β :=
  match work with
  | .done a => f a
  | .log event next => .log event (next.bind f)
  | .acquire service next => .acquire service fun reply => (next reply).bind f
  | .speak handle text next => .speak handle text fun reply => (next reply).bind f

/-- What an observer sees while work runs. -/
inductive Happening (H : Type) where
  | logged (event : Event)
  | lookedUp (service : String) (reply : Reply H)
  | spoke (handle : H) (text : String) (reply : Reply Unit)

/-- The way to the robot, with the handles found so far. Without a connector it is offline. -/
structure Accessor (σ H : Type) where
  connector : Option (Connector σ H)
  handles : List (String × H)
  robot : σ

def Accessor.offline {σ H : Type} (robot : σ) : Accessor σ H := ⟨none, [], robot⟩

def Accessor.online {σ H : Type} (connector : Connector σ H) (robot : σ) : Accessor σ H :=
  ⟨some connector, [], robot⟩

def Accessor.isOffline {σ H : Type} (a : Accessor σ H) : Bool := a.connector.isNone

def handleFor {H : Type} (service : String) : List (String × H) → Option H
  | [] => none
  | (name, handle) :: rest => if name = service then some handle else handleFor service rest

def offlineEvent (service : String) : Event :=
  ⟨.debug, "Offline mode, not resolving actuator", [("service", service)]⟩

def lookupEvent (service : String) : Event :=
  ⟨.info, "Resolving actuator service", [("service", service)]⟩

def found {H : Type} : Reply H → Reply (Option H)
  | .returned (.ok handle) => .returned (.ok (some handle))
  | .returned (.error e) => .returned (.error e)
  | .panicked p => .panicked p

/-- Makes a lookup. Nothing of its answer is kept yet. -/
def Accessor.lookUp {σ H : Type} (a : Accessor σ H) (connector : Connector σ H) (service : String) :
    Reply H × List (Happening H) × Accessor σ H :=
  let ((reply, events), robot) := connector.lookup service a.robot
  (reply, .logged (lookupEvent service) :: events.map .logged ++ [.lookedUp service reply],
    { a with robot := robot })

def Accessor.keep {σ H : Type} (a : Accessor σ H) (service : String) : Reply H → Accessor σ H
  | .returned (.ok handle) => { a with handles := (service, handle) :: a.handles }
  | _ => a

def Accessor.acquire {σ H : Type} (a : Accessor σ H) (service : String) :
    Reply (Option H) × List (Happening H) × Accessor σ H :=
  match a.connector with
  | none => (.returned (.ok none), [.logged (offlineEvent service)], a)
  | some connector =>
    match handleFor service a.handles with
    | some handle => (.returned (.ok (some handle)), [], a)
    | none =>
      let (reply, trace, a) := a.lookUp connector service
      (found reply, trace, a.keep service reply)

def Accessor.speak {σ H : Type} (a : Accessor σ H) (handle : H) (text : String) :
    Reply Unit × List (Happening H) × Accessor σ H :=
  match a.connector with
  | none => (.returned (.ok ()), [], a)
  | some connector =>
    let (reply, robot) := connector.speak handle text a.robot
    (reply, [.spoke handle text reply], { a with robot := robot })

/-- Runs work with every answer given at once; what happened is put before `past`, latest first. -/
def Work.runOnto {σ H α : Type} (past : List (Happening H)) (work : Work H α)
    (a : Accessor σ H) : α × List (Happening H) × Accessor σ H :=
  match work with
  | .done result => (result, past, a)
  | .log event next => next.runOnto (.logged event :: past) a
  | .acquire service next =>
    let (reply, seen, a) := a.acquire service
    (next reply).runOnto (seen.reverse ++ past) a
  | .speak handle text next =>
    let (reply, seen, a) := a.speak handle text
    (next reply).runOnto (seen.reverse ++ past) a

def Work.run {σ H α : Type} (work : Work H α) (a : Accessor σ H) :
    α × List (Happening H) × Accessor σ H :=
  let (result, past, a) := work.runOnto [] a
  (result, past.reverse, a)

def Happening.event? {H : Type} : Happening H → Option Event
  | .logged event => some event
  | _ => none

end CommandGateway
