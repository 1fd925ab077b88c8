import CommandGateway.Engine.Errand
import CommandGateway.Pool.Basic

/- The pool of workers and the errands that dispatch batches, over one way to the robot. A run is a
   list of moves in any order in which each is possible when its turn comes; what a robot answers
   and how far an errand has come never decide which move is next. -/
namespace CommandGateway

open Engine

structure Engine (σ H : Type) where
  registry : Registry H
  scene : Scene σ H
  errands : List (Errand H)
  pool : Pool

end CommandGateway

namespace CommandGateway.Engine

open Pool

/-- Errands are never stopped, except that a caller may give up. -/
inductive Move where
  | pool (action : Action)
  | request (n : Nat) (body : Bytes)
  | call (n : Nat) (service : String)
  | giveUp (n : Nat)
  | step (owner : Owner) (step : Step)

def errandOf {H : Type} (owner : Owner) (errands : List (Errand H)) : Option (Errand H) :=
  errands.find? (·.owner = owner)

def replaceErrand {H : Type} (errand : Errand H) (errands : List (Errand H)) : List (Errand H) :=
  errands.map fun t => if t.owner = errand.owner then errand else t

def removeErrand {H : Type} (owner : Owner) (errands : List (Errand H)) : List (Errand H) :=
  errands.filter (·.owner ≠ owner)

/-- A job that is marked as running gets an errand, and the job ends as its errand does. -/
def act? {σ H : Type} (e : Engine σ H) (action : Action) : Option (Engine σ H) :=
  match e.pool.act? action with
  | none => none
  | some pool =>
    match action with
    | .mark w =>
      match e.pool.workers[w]? with
      | some (.taken job) =>
        let errand := .batch job.id (.ready (dispatch e.registry job.batch))
        some { e with pool := pool, errands := e.errands ++ [errand] }
      | _ => none
    | .finish w result =>
      match e.pool.workers[w]? with
      | some (.running job) =>
        if (errandOf (.job job.id) e.errands).bind Errand.report? = some result then
          some { e with pool := pool, errands := removeErrand (.job job.id) e.errands }
        else none
      | _ => none
    | _ => some { e with pool := pool }

def step? {σ H : Type} (e : Engine σ H) (owner : Owner) (step : Step) :
    Option (Engine σ H) :=
  match errandOf owner e.errands with
  | none => none
  | some errand =>
    match errand.step? e.scene step with
    | none => none
    | some (errand, scene) =>
      some { e with scene := scene, errands := replaceErrand errand e.errands }

def Scene.release {σ H : Type} (s : Scene σ H) : Standing → Scene σ H
  | .lookingUp service _ => { s with inFlight := s.inFlight.erase service }
  | _ => s

def move? {σ H : Type} (e : Engine σ H) : Move → Option (Engine σ H)
  | .pool action => e.act? action
  | .request n body =>
    match errandOf (.request n) e.errands with
    | some _ => none
    | none =>
      let errand := .payload n (.ready (dispatchPayload e.registry body))
      some { e with errands := e.errands ++ [errand] }
  | .call n service =>
    match errandOf (.caller n) e.errands with
    | some _ => none
    | none =>
      let errand := .handle n (.ready (.acquire service .done))
      some { e with errands := e.errands ++ [errand] }
  | .giveUp n =>
    match errandOf (.caller n) e.errands with
    | none => none
    | some errand =>
      some { e with
        scene := e.scene.release errand.standing
        errands := removeErrand (.caller n) e.errands }
  | .step owner step => e.step? owner step

def run? {σ H : Type} (e : Engine σ H) : List Move → Option (Engine σ H)
  | [] => some e
  | m :: rest =>
    match e.move? m with
    | some e => e.run? rest
    | none => none

end CommandGateway.Engine
