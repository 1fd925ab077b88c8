import CommandGateway.Api.Gateway

/- Exchanges with clients. The future that makes the answer to a request is polled until it is
   ready, unless the client hangs up: then it is dropped where it is suspended, and with it goes all
   that it holds. -/
namespace CommandGateway.Engine

/-- What a suspended future waits for: an errand that it holds and that goes on only as the future
    is polled, or one that was spawned as a task, of which it holds no more than the handle. -/
inductive Wait where
  | held (owner : Owner)
  | spawned (owner : Owner)
  deriving DecidableEq

/-- Drops what a suspended future holds. An errand is gone wherever it stood, and its lookup is no
    longer under way; a task without its handle goes on. -/
def drop {σ H : Type} (e : Engine σ H) : Wait → Engine σ H
  | .held owner =>
    match errandOf owner e.errands with
    | none => e
    | some errand =>
      { e with
        scene := e.scene.release errand.standing
        errands := removeErrand owner e.errands }
  | .spawned _ => e

end CommandGateway.Engine

namespace CommandGateway.Api

open Pool Engine

inductive Exchange where
  | suspended (wait : Wait)
  | answered (answer : Answer)
  | dropped

structure Session (σ H : Type) where
  gateway : Gateway σ H
  exchanges : List Exchange

def Session.start {σ H : Type} (g : Gateway σ H) : Session σ H := ⟨g, []⟩

def Session.engine {σ H : Type} (s : Session σ H) : Engine σ H := s.gateway.rota.engine

/-- `ask` is the first time that a future is polled, and `poll` any later one. All others are turns
    of those that work behind the requests. -/
inductive Turn where
  | ask (fresh : Uuid) (r : Request)
  | poll (exchange : Nat)
  | hangUp (exchange : Nat)
  | pool (action : Action)
  | step (owner : Owner) (step : Step)

/-- A batch that is not queued is dispatched by a task that was spawned for it. -/
def Session.ask {σ H : Type} (s : Session σ H) (fresh : Uuid) (r : Request) : Session σ H :=
  match s.gateway.handle fresh r with
  | .answered answer g => ⟨g, s.exchanges ++ [.answered answer]⟩
  | .waiting n g => ⟨g, s.exchanges ++ [.suspended (.spawned (.request n))]⟩

def Exchange.poll {σ H : Type} (g : Gateway σ H) : Exchange → Exchange
  | .suspended (.spawned (.request n)) =>
    match g.answer? n with
    | some answer => .answered answer
    | none => .suspended (.spawned (.request n))
  | exchange => exchange

def Session.play {σ H : Type} (s : Session σ H) (m : Move) : Session σ H :=
  { s with gateway := { s.gateway with rota := s.gateway.rota.play m } }

def Session.hangUp {σ H : Type} (s : Session σ H) (exchange : Nat) : Session σ H :=
  match s.exchanges[exchange]? with
  | some (.suspended wait) =>
    { gateway :=
        { s.gateway with rota := { s.gateway.rota with engine := s.engine.drop wait } }
      exchanges := s.exchanges.set exchange .dropped }
  | _ => s

def Session.turn {σ H : Type} (s : Session σ H) : Turn → Session σ H
  | .ask fresh r => s.ask fresh r
  | .poll exchange => { s with exchanges := s.exchanges.modify exchange (·.poll s.gateway) }
  | .hangUp exchange => s.hangUp exchange
  | .pool action => s.play (.pool action)
  | .step owner step => s.play (.step owner step)

def Session.run {σ H : Type} (s : Session σ H) (turns : List Turn) : Session σ H :=
  turns.foldl Session.turn s

end CommandGateway.Api
