import CommandGateway.Work
import CommandGateway.Uuid

/- What errands share: the way to the robot, the lookups that have not been answered yet, and a
   journal of who did what. -/
namespace CommandGateway.Engine

/-- For whom an errand works: for a queued job, for a request that waits for it, or for a caller who
    wants a handle and nothing else. -/
inductive Owner where
  | job (id : Uuid)
  | request (n : Nat)
  | caller (n : Nat)
  deriving DecidableEq

/-- `inFlight` are the services with a lookup under way. The journal has its latest entry first. -/
structure Scene (σ H : Type) where
  accessor : Accessor σ H
  inFlight : List String
  journal : List (Owner × Happening H)

def Scene.fresh {σ H : Type} (accessor : Accessor σ H) : Scene σ H := ⟨accessor, [], []⟩

def Scene.enter {σ H : Type} (s : Scene σ H) (owner : Owner) (seen : List (Happening H)) :
    Scene σ H :=
  { s with journal := (seen.map (owner, ·)).reverse ++ s.journal }

/-- Starts a lookup. Its answer is fixed from now on, but known to nobody. -/
def Scene.lookUp {σ H : Type} (s : Scene σ H) (owner : Owner) (connector : Connector σ H)
    (service : String) : Reply H × Scene σ H :=
  let (reply, seen, accessor) := s.accessor.lookUp connector service
  (reply, { s with accessor := accessor, inFlight := service :: s.inFlight }.enter owner seen)

def Scene.answer {σ H : Type} (s : Scene σ H) (service : String) (reply : Reply H) : Scene σ H :=
  { s with
    accessor := s.accessor.keep service reply
    inFlight := s.inFlight.erase service }

def Scene.speak {σ H : Type} (s : Scene σ H) (owner : Owner) (handle : H) (text : String) :
    Reply Unit × Scene σ H :=
  let (reply, seen, accessor) := s.accessor.speak handle text
  (reply, { s with accessor := accessor }.enter owner seen)

end CommandGateway.Engine
