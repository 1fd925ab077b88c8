import CommandGateway.Pool.Tracker
import CommandGateway.Text.Shown

/- A bounded queue of batches and the workers that drain it. Everything that can happen to the
   pool is one `Action`, small enough that nothing else can come in between: a run of the pool is
   a list of actions in any order in which each is possible when its turn comes. -/
namespace CommandGateway.Pool

inductive ExecutorError where
  | queueFull
  | closed
  | abandoned
  deriving DecidableEq, Repr

def ExecutorError.message : ExecutorError → String
  | .queueFull => "the command queue is full"
  | .closed => "the command executor has shut down"
  | .abandoned => "the batch was abandoned before it completed"

structure Job where
  id : Uuid
  batch : Batch

/-- What a worker is doing. A result is first recorded and then handed to the ticket. -/
inductive Phase where
  | idle
  | taken (job : Job)
  | running (job : Job)
  | ended (job : Job) (result : Ended Report)
  | recorded (job : Job) (result : Ended Report)
  | gone

/-- What the holder of a ticket would learn now. A ticket that was used or dropped is no more. -/
inductive Ticket where
  | pending
  | ready (report : Report)
  | abandoned
  deriving DecidableEq

/-- How far a call that brings a batch has come. Until it returns it can send to the queue, so the
    queue stays open for it. -/
inductive Submission where
  | entered (job : Job)
  | tracked (job : Job)
  | refused (job : Job) (e : ExecutorError)
  | returned (result : Except ExecutorError Unit)

/-- How far a call for shutdown has come: the queue is closed, then the call waits for the
    workers that no other call waits for. -/
inductive Shutdown where
  | closed
  | joining (workers : List Nat)
  | returned
  deriving DecidableEq

end CommandGateway.Pool

namespace CommandGateway

open Pool

/-- `joinable` are the workers that no call for shutdown has taken over yet. -/
structure Pool where
  capacity : Nat
  accepting : Bool
  queue : List Job
  submissions : List Submission
  workers : List Phase
  tracker : Tracker
  tickets : List (Uuid × Ticket)
  joinable : List Nat
  shutdowns : List Shutdown

end CommandGateway

namespace CommandGateway.Pool

/-- There is room for one batch and a worker at least. -/
def start (workers capacity retained : Nat) : Pool where
  capacity := max capacity 1
  accepting := true
  queue := []
  submissions := []
  workers := List.replicate (max workers 1) .idle
  tracker := .empty retained
  tickets := []
  joinable := List.range (max workers 1)
  shutdowns := []

def absent : Pool where
  capacity := 1
  accepting := false
  queue := []
  submissions := []
  workers := []
  tracker := .empty 0
  tickets := []
  joinable := []
  shutdowns := []

/-- `N` stands for the number of the task, which has no meaning outside one run. -/
def abortText : Panic → String
  | .text s => "task N panicked with message " ++ Text.shown s
  | .other => "task N panicked"

def outcome : Ended Report → JobState
  | .returned report => .completed report
  | .panicked p => .failed (abortText p)

def verdict : Ended Report → Ticket
  | .returned report => .ready report
  | .panicked _ => .abandoned

def isGone : Option Phase → Bool
  | some .gone => true
  | _ => false

def Submission.hasReturned : Submission → Bool
  | .returned _ => true
  | _ => false

/-- Whether a batch may still be sent to the queue, now or later. -/
def isOpen (p : Pool) : Bool := p.accepting || p.submissions.any fun s => !s.hasReturned

def setSubmission (p : Pool) (call : Nat) (s : Submission) : Pool :=
  { p with submissions := p.submissions.set call s }

def enter (p : Pool) (id : Uuid) (batch : Batch) : Pool :=
  let s : Submission := if p.accepting then .entered ⟨id, batch⟩ else .returned (.error .closed)
  { p with submissions := p.submissions ++ [s] }

/-- A job is tracked before it is queued, so that no worker can be faster. -/
def track? (p : Pool) (call : Nat) : Option Pool :=
  match p.submissions[call]? with
  | some (.entered job) =>
    some ({ p with tracker := p.tracker.set job.id .queued }.setSubmission call (.tracked job))
  | _ => none

/-- What the queue says to one more job. Nobody receives when all workers are gone. -/
def admission (p : Pool) : Except ExecutorError Unit :=
  if p.workers.all fun phase => isGone (some phase) then .error .closed
  else if p.queue.length < p.capacity then .ok () else .error .queueFull

def send? (p : Pool) (call : Nat) : Option Pool :=
  match p.submissions[call]? with
  | some (.tracked job) =>
    match p.admission with
    | .ok () =>
      some ({ p with
        queue := p.queue ++ [job]
        tickets := (job.id, .pending) :: p.tickets }.setSubmission call (.returned (.ok ())))
    | .error e => some (p.setSubmission call (.refused job e))
  | _ => none

def retract? (p : Pool) (call : Nat) : Option Pool :=
  match p.submissions[call]? with
  | some (.refused job e) =>
    some ({ p with tracker := p.tracker.forget job.id }.setSubmission call (.returned (.error e)))
  | _ => none

def ticketOf (id : Uuid) : List (Uuid × Ticket) → Option Ticket
  | [] => none
  | (name, ticket) :: rest => if name = id then some ticket else ticketOf id rest

def tell (id : Uuid) (verdict : Ticket) (tickets : List (Uuid × Ticket)) : List (Uuid × Ticket) :=
  tickets.map fun t => if t.1 = id then (t.1, verdict) else t

def dropTicket (p : Pool) (id : Uuid) : Pool :=
  { p with tickets := p.tickets.filter (·.1 ≠ id) }

def setWorker (p : Pool) (w : Nat) (phase : Phase) : Pool :=
  { p with workers := p.workers.set w phase }

def take? (p : Pool) (w : Nat) : Option Pool :=
  match p.workers[w]?, p.queue with
  | some .idle, job :: rest => some ({ p with queue := rest }.setWorker w (.taken job))
  | _, _ => none

def mark? (p : Pool) (w : Nat) : Option Pool :=
  match p.workers[w]? with
  | some (.taken job) =>
    some ({ p with tracker := p.tracker.set job.id .running }.setWorker w (.running job))
  | _ => none

def finish? (p : Pool) (w : Nat) (result : Ended Report) : Option Pool :=
  match p.workers[w]? with
  | some (.running job) => some (p.setWorker w (.ended job result))
  | _ => none

def record? (p : Pool) (w : Nat) : Option Pool :=
  match p.workers[w]? with
  | some (.ended job result) =>
    some ({ p with tracker := p.tracker.set job.id (outcome result) }.setWorker w
      (.recorded job result))
  | _ => none

def deliver? (p : Pool) (w : Nat) : Option Pool :=
  match p.workers[w]? with
  | some (.recorded job result) =>
    some ({ p with tickets := tell job.id (verdict result) p.tickets }.setWorker w .idle)
  | _ => none

/-- An idle worker goes when the queue is empty and nobody can send to it. -/
def leave? (p : Pool) (w : Nat) : Option Pool :=
  match p.workers[w]?, p.queue with
  | some .idle, [] => if p.isOpen then none else some (p.setWorker w .gone)
  | _, _ => none

def close (p : Pool) : Pool :=
  { p with accepting := false, shutdowns := p.shutdowns ++ [.closed] }

def join? (p : Pool) (call : Nat) : Option Pool :=
  match p.shutdowns[call]? with
  | some .closed =>
    some { p with joinable := [], shutdowns := p.shutdowns.set call (.joining p.joinable) }
  | _ => none

def return? (p : Pool) (call : Nat) : Option Pool :=
  match p.shutdowns[call]? with
  | some (.joining workers) =>
    if workers.all fun w => isGone p.workers[w]? then
      some { p with shutdowns := p.shutdowns.set call .returned }
    else none
  | _ => none

inductive Action where
  | enter (id : Uuid) (batch : Batch)
  | track (call : Nat)
  | send (call : Nat)
  | retract (call : Nat)
  | dropTicket (id : Uuid)
  | take (worker : Nat)
  | mark (worker : Nat)
  | finish (worker : Nat) (result : Ended Report)
  | record (worker : Nat)
  | deliver (worker : Nat)
  | leave (worker : Nat)
  | close
  | join (call : Nat)
  | return (call : Nat)

def act? (p : Pool) : Action → Option Pool
  | .enter id batch => some (p.enter id batch)
  | .track call => p.track? call
  | .send call => p.send? call
  | .retract call => p.retract? call
  | .dropTicket id => some (p.dropTicket id)
  | .take w => p.take? w
  | .mark w => p.mark? w
  | .finish w result => p.finish? w result
  | .record w => p.record? w
  | .deliver w => p.deliver? w
  | .leave w => p.leave? w
  | .close => some p.close
  | .join call => p.join? call
  | .return call => p.return? call

def run? (p : Pool) : List Action → Option Pool
  | [] => some p
  | a :: rest =>
    match p.act? a with
    | some q => q.run? rest
    | none => none

/-- The steps of one call that brings a batch. The last is possible only after a refusal. -/
def submission (call : Nat) (id : Uuid) (batch : Batch) : List Action :=
  [.enter id batch, .track call, .send call, .retract call]

/-- What a call has brought back; it counts as closed as long as it has not returned. -/
def answerTo (p : Pool) (call : Nat) : Except ExecutorError Unit :=
  match p.submissions[call]? with
  | some (.returned result) => result
  | _ => .error .closed

end CommandGateway.Pool
