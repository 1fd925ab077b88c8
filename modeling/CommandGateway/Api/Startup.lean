import CommandGateway.Api.Gateway

/- How a gateway comes up. Its parts are made one after the other: the queue, the list of workers
   and the table of routes. Each of them panics at once when it is given more than it can hold. -/
namespace CommandGateway.Pool

def largestCapacity : Nat := Nat.pow 2 61 - 1

def largestCrew : Nat := Nat.pow 2 60 - 1

def capacityText : String :=
  "a semaphore may not have more than MAX_PERMITS permits (" ++ toString largestCapacity ++ ")"

def crewText : String := "capacity overflow"

/-- The queue is made first, and then the workers. -/
def launch (workers capacity retained : Nat) : Ended Pool :=
  if largestCapacity < max capacity 1 then .panicked (.text capacityText)
  else if largestCrew < max workers 1 then .panicked (.text crewText)
  else .returned (start workers capacity retained)

end CommandGateway.Pool

namespace CommandGateway.Api

open Pool Engine

variable {σ H : Type}

/-- Commands that are dispatched in their requests need no workers. -/
def launchPool (c : Config) : Ended Pool :=
  match c.mode with
  | .sync => .returned .absent
  | .async => Pool.launch c.workers c.capacity c.retained

def clashText (new old : Mount) : String :=
  "Invalid route " ++ Text.shown new.pattern.template ++
    ": Insertion failed due to conflict with previously registered route: " ++ old.pattern.template

def Gateway.mount (c : Config) (rota : Rota σ H) : Ended (Gateway σ H) :=
  match mountAll [] (mounts c.commandsPath) with
  | .error (new, old) => .panicked (.text (clashText new old))
  | .ok _ => .returned ⟨c, rota⟩

def Gateway.launch (c : Config) (registry : Registry H) (accessor : Accessor σ H) (gate : Gate) :
    Ended (Gateway σ H) :=
  match launchPool c with
  | .panicked p => .panicked p
  | .returned pool => Gateway.mount c (Rota.start ⟨registry, .fresh accessor, [], pool⟩ gate)

end CommandGateway.Api
