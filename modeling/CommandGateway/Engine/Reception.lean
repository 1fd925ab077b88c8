import CommandGateway.Engine.Basic

/- The queue's reception. One worker at a time has the queue, and keeps it while it waits for a job;
   the others stand in line and get it in the order of asking. A worker gives the queue up as soon
   as it has a job, and only then goes on with that. -/
namespace CommandGateway.Engine

open Pool

/-- `line` are the workers that asked for the queue, the first of which has it. -/
structure Reception (σ H : Type) where
  engine : Engine σ H
  line : List Nat

/-- `ask` puts a worker in line, and `pass` hands the queue on to the next one. -/
inductive Reception.Turn where
  | ask (worker : Nat)
  | pass (worker : Nat)
  | move (m : Move)

def isIdle : Phase → Bool
  | .idle => true
  | _ => false

/-- Only the worker that has the queue takes a job or learns that there will be none, and none
    starts a job while it stands in line. -/
def mayMove (line : List Nat) : Move → Bool
  | .pool (.take w) => line.head? = some w
  | .pool (.leave w) => line.head? = some w
  | .pool (.mark w) => w ∉ line
  | _ => true

def Reception.turn? {σ H : Type} (r : Reception σ H) : Reception.Turn → Option (Reception σ H)
  | .ask w =>
    match r.engine.pool.workers[w]? with
    | some phase =>
      if isIdle phase ∧ w ∉ r.line then some { r with line := r.line ++ [w] } else none
    | none => none
  | .pass w =>
    match r.engine.pool.workers[w]? with
    | some phase =>
      if r.line.head? = some w ∧ !isIdle phase then some { r with line := r.line.tail } else none
    | none => none
  | .move m => if mayMove r.line m then (r.engine.move? m).map ({ r with engine := · }) else none

def Reception.run? {σ H : Type} (r : Reception σ H) : List Reception.Turn → Option (Reception σ H)
  | [] => some r
  | t :: rest =>
    match r.turn? t with
    | some r => r.run? rest
    | none => none

/-- Turns that workers and errands take by themselves. All others wait for a client or for an answer
    of the robot. -/
def Reception.Turn.isOwn : Reception.Turn → Bool
  | .ask _ => true
  | .pass _ => true
  | .move (.pool (.take _)) => true
  | .move (.pool (.mark _)) => true
  | .move (.pool (.finish _ _)) => true
  | .move (.pool (.record _)) => true
  | .move (.pool (.deliver _)) => true
  | .move (.pool (.leave _)) => true
  | .move (.step _ .advance) => true
  | .move (.step _ .lookUp) => true
  | _ => false

/-- Nothing can go on by itself. -/
def Reception.Settled {σ H : Type} (r : Reception σ H) : Prop :=
  ∀ t : Reception.Turn, t.isOwn → r.turn? t = none

def workerTurns {σ H : Type} (e : Engine σ H) (w : Nat) : List Reception.Turn :=
  let ends :=
    match e.pool.workers[w]? with
    | some (.running job) => ((errandOf (.job job.id) e.errands).bind Errand.report?).toList
    | _ => []
  let actions : List Action := [.take w, .mark w, .record w, .deliver w, .leave w]
  [.ask w, .pass w] ++ (actions ++ ends.map (.finish w)).map fun action => .move (.pool action)

def errandTurns {H : Type} (errand : Errand H) : List Reception.Turn :=
  [.move (.step errand.owner .advance), .move (.step errand.owner .lookUp)]

def Reception.isSettled {σ H : Type} (r : Reception σ H) : Bool :=
  ((List.range r.engine.pool.workers.length).flatMap (workerTurns r.engine) ++
    r.engine.errands.flatMap errandTurns).all fun t => (r.turn? t).isNone

end CommandGateway.Engine
