import CommandGateway.Dispatch
import CommandGateway.Engine.Scene

/- Errands: work under way among other work. The answer of a call is fixed when the call is made and
   reaches the errand in a step of its own, so between the two anything else may happen. -/
namespace CommandGateway.Engine

inductive Stage (H α : Type) where
  | ready (work : Work H α)
  | waiting (service : String) (next : Reply (Option H) → Work H α)
  | lookingUp (service : String) (reply : Reply H) (next : Reply (Option H) → Work H α)
  | speaking (text : String) (reply : Reply Unit) (next : Reply Unit → Work H α)
  | finished (result : α)

/-- `advance` does what needs no answer, `lookUp` ends the wait for a service, and the others take
    the answer of a call. -/
inductive Step where
  | advance
  | lookUp
  | answer
  | hear
  deriving DecidableEq

def advance {σ H α : Type} (owner : Owner) (s : Scene σ H) :
    Work H α → Stage H α × Scene σ H
  | .done result => (.finished result, s)
  | .log event next => (.ready next, s.enter owner [.logged event])
  | .acquire service next =>
    match s.accessor.connector with
    | none =>
      (.ready (next (.returned (.ok none))), s.enter owner [.logged (offlineEvent service)])
    | some _ =>
      match handleFor service s.accessor.handles with
      | some handle => (.ready (next (.returned (.ok (some handle)))), s)
      | none => (.waiting service next, s)
  | .speak handle text next =>
    let (reply, s) := s.speak owner handle text
    (.speaking text reply next, s)

/-- A wait ends with the handle that another errand has found, or with a lookup of one's own, which
    is possible only while there is none under way. -/
def endWait? {σ H α : Type} (owner : Owner) (s : Scene σ H) (service : String)
    (next : Reply (Option H) → Work H α) : Option (Stage H α × Scene σ H) :=
  match s.accessor.connector with
  | none => none
  | some connector =>
    match handleFor service s.accessor.handles with
    | some handle => some (.ready (next (.returned (.ok (some handle)))), s)
    | none =>
      if service ∈ s.inFlight then none
      else
        let (reply, s) := s.lookUp owner connector service
        some (.lookingUp service reply next, s)

def Stage.step? {σ H α : Type} (owner : Owner) (s : Scene σ H) :
    Step → Stage H α → Option (Stage H α × Scene σ H)
  | .advance, .ready work => some (advance owner s work)
  | .lookUp, .waiting service next => endWait? owner s service next
  | .answer, .lookingUp service reply next =>
    some (.ready (next (found reply)), s.answer service reply)
  | .hear, .speaking _ reply next => some (.ready (next reply), s)
  | _, _ => none

inductive Standing where
  | ready
  | waiting (service : String)
  | lookingUp (service : String) (succeeds : Bool)
  | speaking (text : String)
  | finished
  deriving DecidableEq

def Stage.standing {H α : Type} : Stage H α → Standing
  | .ready _ => .ready
  | .waiting service _ => .waiting service
  | .lookingUp service reply _ => .lookingUp service (reply matches .returned (.ok _))
  | .speaking text _ _ => .speaking text
  | .finished _ => .finished

inductive Errand (H : Type) where
  | batch (id : Uuid) (stage : Stage H (Ended Report))
  | payload (request : Nat) (stage : Stage H (Ended DispatchOutcome))
  | handle (caller : Nat) (stage : Stage H (Reply (Option H)))

def Errand.owner {H : Type} : Errand H → Owner
  | .batch id _ => .job id
  | .payload request _ => .request request
  | .handle caller _ => .caller caller

def Errand.standing {H : Type} : Errand H → Standing
  | .batch _ stage => stage.standing
  | .payload _ stage => stage.standing
  | .handle _ stage => stage.standing

def Errand.step? {σ H : Type} (s : Scene σ H) (step : Step) (errand : Errand H) :
    Option (Errand H × Scene σ H) :=
  match errand with
  | .batch id stage => (stage.step? errand.owner s step).map fun (stage, s) => (.batch id stage, s)
  | .payload request stage =>
    (stage.step? errand.owner s step).map fun (stage, s) => (.payload request stage, s)
  | .handle caller stage =>
    (stage.step? errand.owner s step).map fun (stage, s) => (.handle caller stage, s)

def Errand.report? {H : Type} : Errand H → Option (Ended Report)
  | .batch _ (.finished result) => some result
  | _ => none

def Errand.outcome? {H : Type} : Errand H → Option (Ended DispatchOutcome)
  | .payload _ (.finished result) => some result
  | _ => none

def Errand.reply? {H : Type} : Errand H → Option (Reply (Option H))
  | .handle _ (.finished result) => some result
  | _ => none

end CommandGateway.Engine
