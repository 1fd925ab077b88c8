import CommandGateway.Dispatch
import CommandGateway.Uuid

/- The state of every job that is waiting, running or lately finished. Of the finished ones only
   the newest are kept; the others never go. -/
namespace CommandGateway.Pool

open Json

inductive JobState where
  | queued
  | running
  | completed (report : Report)
  | failed (error : String)
  deriving DecidableEq

def JobState.isFinished : JobState → Bool
  | .queued => false
  | .running => false
  | .completed _ => true
  | .failed _ => true

def JobState.name : JobState → String
  | .queued => "queued"
  | .running => "running"
  | .completed _ => "completed"
  | .failed _ => "failed"

def JobState.toJson (s : JobState) : Value :=
  .object (("state", .string s.name) ::
    match s with
    | .queued => []
    | .running => []
    | .completed report => [("report", report.toJson)]
    | .failed error => [("error", .string error)])

/-- `finished` holds ids in the order in which their jobs finished, the oldest first. -/
structure Tracker where
  retained : Nat
  jobs : List (Uuid × JobState)
  finished : List Uuid

def Tracker.empty (retained : Nat) : Tracker := ⟨retained, [], []⟩

def stateOf (id : Uuid) : List (Uuid × JobState) → Option JobState
  | [] => none
  | (name, state) :: rest => if name = id then some state else stateOf id rest

def Tracker.get? (t : Tracker) (id : Uuid) : Option JobState := stateOf id t.jobs

def without (id : Uuid) (jobs : List (Uuid × JobState)) : List (Uuid × JobState) :=
  jobs.filter (·.1 ≠ id)

def Tracker.forget (t : Tracker) (id : Uuid) : Tracker := { t with jobs := without id t.jobs }

def evict (retained : Nat) (finished : List Uuid) (jobs : List (Uuid × JobState)) :
    List Uuid × List (Uuid × JobState) :=
  match finished with
  | [] => ([], jobs)
  | id :: rest =>
    if retained < finished.length then evict retained rest (without id jobs) else (finished, jobs)

def Tracker.set (t : Tracker) (id : Uuid) (state : JobState) : Tracker :=
  let jobs := (id, state) :: without id t.jobs
  if state.isFinished then
    let (finished, jobs) := evict t.retained (t.finished ++ [id]) jobs
    { t with finished := finished, jobs := jobs }
  else { t with jobs := jobs }

end CommandGateway.Pool
