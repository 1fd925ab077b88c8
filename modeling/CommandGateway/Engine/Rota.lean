import CommandGateway.Engine.Basic

/- A rota: workers and errands take turns, first come, first served, and each turn lasts until there
   is something to wait for. Whoever waits for the same service is served in the order of asking;
   of the idle workers only the first in line looks at the queue. Every step of a rota is a move of
   its engine, so the rota only picks moves. -/
namespace CommandGateway.Engine

open Pool

inductive Thread where
  | worker (w : Nat)
  | errand (owner : Owner)
  deriving DecidableEq

def Thread.precedes : Thread → Thread → Bool
  | .errand (.caller m), .errand (.caller n) => m < n
  | _, _ => false

def enqueue (t : Thread) : List Thread → List Thread
  | [] => [t]
  | u :: rest =>
    if u = t then u :: rest
    else if t.precedes u then t :: u :: rest
    else u :: enqueue t rest

/-- Which utterances the robot brings to an end. Each pass lets one with its text through. -/
structure Gate where
  isOpen : Bool
  passes : List String

/-- The one who may look a service up, and those in line after it. -/
structure Desk where
  service : String
  holder : Owner
  line : List Owner

/-- `ready` are the threads that can go on, in order; `expecting` the errands whose lookup takes its
    time; `receivers` the workers in line for the queue, the first of which has it; `stalled` the
    errands that the gate holds up. The allowance is a bound on the steps that all work so far can
    take. -/
structure Rota (σ H : Type) where
  engine : Engine σ H
  ready : List Thread
  expecting : List Owner
  desks : List Desk
  receivers : List Nat
  gate : Gate
  stalled : List (Owner × String)
  allowance : Nat

def stepsOfBatch (size : Nat) : Nat := 20 * size + 64

def Rota.start {σ H : Type} (engine : Engine σ H) (gate : Gate) : Rota σ H where
  engine := engine
  ready := (List.range engine.pool.workers.length).map .worker
  expecting := []
  desks := []
  receivers := []
  gate := gate
  stalled := []
  allowance := 8 * engine.pool.workers.length + 8

def Rota.allow {σ H : Type} (r : Rota σ H) (steps : Nat) : Rota σ H :=
  { r with allowance := r.allowance + steps }

/-- An impossible move changes nothing. -/
def Rota.play {σ H : Type} (r : Rota σ H) (m : Move) : Rota σ H :=
  { r with engine := (r.engine.move? m).getD r.engine }

def Rota.wake {σ H : Type} (r : Rota σ H) (threads : List Thread) : Rota σ H :=
  match r.ready with
  | [] => { r with ready := threads.foldl (fun ready t => enqueue t ready) [] }
  | t :: rest =>
    { r with ready := t :: (threads.filter (· ≠ t)).foldl (fun ready t => enqueue t ready) rest }

def Rota.yield {σ H : Type} (r : Rota σ H) : Rota σ H := { r with ready := r.ready.tail }

def deskOf (service : String) (desks : List Desk) : Option Desk :=
  desks.find? (·.service = service)

def Rota.setDesk {σ H : Type} (r : Rota σ H) (service : String) (desk : Option Desk) :
    Rota σ H :=
  { r with desks := desk.toList ++ r.desks.filter (·.service ≠ service) }

def Rota.suspends {σ H : Type} (r : Rota σ H) : Bool :=
  match r.engine.scene.accessor.connector with
  | some connector => connector.suspends
  | none => false

def Rota.lookUp {σ H : Type} (r : Rota σ H) (owner : Owner) : Rota σ H :=
  let r := r.play (.step owner .lookUp)
  match (errandOf owner r.engine.errands).map Errand.standing with
  | some (.lookingUp _ _) =>
    if r.suspends then { r.yield with expecting := r.expecting ++ [owner] } else r
  | _ => r

def Rota.queueUp {σ H : Type} (r : Rota σ H) (owner : Owner) (service : String) : Rota σ H :=
  match handleFor service r.engine.scene.accessor.handles with
  | some _ => r.lookUp owner
  | none =>
    match deskOf service r.desks with
    | none => (r.setDesk service (some ⟨service, owner, []⟩)).lookUp owner
    | some desk =>
      if desk.holder = owner then r.lookUp owner
      else (r.setDesk service (some { desk with line := desk.line ++ [owner] })).yield

/-- After a lookup that found a handle all in line go on; otherwise the next one may try. -/
def Rota.leaveDesk {σ H : Type} (r : Rota σ H) (service : String) (succeeds : Bool) : Rota σ H :=
  match deskOf service r.desks with
  | none => r
  | some desk =>
    if succeeds then (r.setDesk service none).wake (desk.line.map .errand)
    else
      match desk.line with
      | [] => r.setDesk service none
      | next :: line => (r.setDesk service (some ⟨service, next, line⟩)).wake [.errand next]

/-- An utterance whose text the gate lets pass ends at once; another one stalls its errand. -/
def Rota.speak {σ H : Type} (r : Rota σ H) (owner : Owner) (text : String) : Rota σ H :=
  if r.gate.isOpen then r.play (.step owner .hear)
  else if text ∈ r.gate.passes then
    { r with gate := { r.gate with passes := r.gate.passes.erase text } }.play (.step owner .hear)
  else { r with stalled := r.stalled ++ [(owner, text)] }.yield

def workerOf (id : Uuid) : List Phase → Nat → Option Nat
  | [], _ => none
  | .running job :: rest, w => if job.id = id then some w else workerOf id rest (w + 1)
  | _ :: rest, w => workerOf id rest (w + 1)

def Rota.leaveErrand {σ H : Type} (r : Rota σ H) : Owner → Rota σ H
  | .job id =>
    match workerOf id r.engine.pool.workers 0 with
    | some w => r.yield.wake [.worker w]
    | none => r.yield
  | _ => r.yield

def Rota.errandTurn {σ H : Type} (r : Rota σ H) (owner : Owner) : Rota σ H :=
  match (errandOf owner r.engine.errands).map Errand.standing with
  | none => r.yield
  | some .ready => r.play (.step owner .advance)
  | some (.waiting service) => r.queueUp owner service
  | some (.lookingUp service succeeds) =>
    (r.play (.step owner .answer)).leaveDesk service succeeds
  | some (.speaking text) => r.speak owner text
  | some .finished => r.leaveErrand owner

def Rota.wakeReceiver {σ H : Type} (r : Rota σ H) : Rota σ H :=
  r.wake (r.receivers.head?.map .worker).toList

/-- The worker that has the queue takes a job and leaves the queue to the next in line, or goes for
    good if there will be no more jobs. -/
def Rota.receive {σ H : Type} (r : Rota σ H) (w : Nat) : Rota σ H :=
  let next := { r with receivers := r.receivers.tail }
  match r.engine.pool.queue with
  | job :: _ =>
    ((next.yield.play (.pool (.take w))).wakeReceiver.play (.pool (.mark w))).wake
      [.errand (.job job.id)]
  | [] =>
    if r.engine.pool.accepting then r.yield
    else (next.yield.play (.pool (.leave w))).wakeReceiver

def Rota.workerTurn {σ H : Type} (r : Rota σ H) (w : Nat) : Rota σ H :=
  match r.engine.pool.workers[w]? with
  | some .idle =>
    if w ∈ r.receivers then if r.receivers.head? = some w then r.receive w else r.yield
    else { r with receivers := r.receivers ++ [w] }
  | some (.taken _) => r.play (.pool (.mark w))
  | some (.running job) =>
    match (errandOf (.job job.id) r.engine.errands).bind Errand.report? with
    | some result => r.play (.pool (.finish w result))
    | none => r.yield
  | some (.ended _ _) => r.play (.pool (.record w))
  | some (.recorded _ _) => r.play (.pool (.deliver w))
  | some .gone => r.yield
  | none => r.yield

/-- One step of the thread whose turn it is. When there is none, the answers arrive that errands are
    expecting. -/
def Rota.turn? {σ H : Type} (r : Rota σ H) : Option (Rota σ H) :=
  match r.ready with
  | [] =>
    match r.expecting with
    | [] => none
    | owners => some ({ r with expecting := [] }.wake (owners.map .errand))
  | .errand owner :: _ => some (r.errandTurn owner)
  | .worker w :: _ => some (r.workerTurn w)

def Rota.turns {σ H : Type} (r : Rota σ H) : Nat → Rota σ H
  | 0 => r
  | fuel + 1 =>
    match r.turn? with
    | none => r
    | some r => r.turns fuel

def Rota.settle {σ H : Type} (r : Rota σ H) : Rota σ H := r.turns r.allowance

/-- A whole call that brings a batch, with no turn for anybody else in between. -/
def Rota.submit {σ H : Type} (r : Rota σ H) (id : Uuid) (batch : Batch) :
    Except ExecutorError Unit × Rota σ H :=
  let call := r.engine.pool.submissions.length
  let r := (submission call id batch).foldl (fun r action => r.play (.pool action)) r
  match r.engine.pool.answerTo call with
  | .ok () => (.ok (), (r.allow (stepsOfBatch batch.size)).wakeReceiver)
  | .error e => (.error e, r)

def Rota.dropTicket {σ H : Type} (r : Rota σ H) (id : Uuid) : Rota σ H :=
  r.play (.pool (.dropTicket id))

def Rota.poll {σ H : Type} (r : Rota σ H) (id : Uuid) : Option Ticket × Rota σ H :=
  match ticketOf id r.engine.pool.tickets with
  | none => (none, r)
  | some .pending => (some .pending, r)
  | some verdict => (some verdict, r.dropTicket id)

def Rota.request {σ H : Type} (r : Rota σ H) (n : Nat) (body : Bytes) : Rota σ H :=
  let size :=
    match Batch.ofBytes body with
    | .ok batch => batch.size
    | .error _ => 0
  ((r.play (.request n body)).allow (stepsOfBatch size)).wake [.errand (.request n)]

def Rota.call {σ H : Type} (r : Rota σ H) (n : Nat) (service : String) : Rota σ H :=
  ((r.play (.call n service)).allow (stepsOfBatch 1)).wake [.errand (.caller n)]

/-- Lets one utterance of a text pass: the one that has waited longest, or else the next to come. -/
def Rota.release {σ H : Type} (r : Rota σ H) (text : String) : Rota σ H :=
  match r.stalled.find? (·.2 = text) with
  | some (owner, _) =>
    ({ r with stalled := r.stalled.filter (·.1 ≠ owner) }.play (.step owner .hear)).wake
      [.errand owner]
  | none => { r with gate := { r.gate with passes := r.gate.passes ++ [text] } }

def Rota.openGate {σ H : Type} (r : Rota σ H) : Rota σ H :=
  let held : List Thread := r.stalled.map fun errand => .errand errand.1
  { r with gate := { r.gate with isOpen := true }, stalled := [] }.wake held

def Rota.close {σ H : Type} (r : Rota σ H) : Rota σ H :=
  ((r.play (.pool .close)).allow (8 * r.engine.pool.workers.length)).wakeReceiver

/-- Closes the queue and lets everything run. If nothing stays stalled, then the workers are gone
    and the call returns. -/
def Rota.shutdown {σ H : Type} (r : Rota σ H) : Rota σ H :=
  let call := r.engine.pool.shutdowns.length
  (r.close.play (.pool (.join call))).settle.play (.pool (.return call))

end CommandGateway.Engine
