import CommandGateway.Actuator

/- A robot for trials that answers by the number of the call. Each lookup that succeeds makes a
   new handle, numbered from 0; utterances are counted over all handles together. -/
namespace CommandGateway.Robot

inductive Line where
  | succeeds
  | fails (e : ActuatorError)
  | panics (p : Panic)
  deriving DecidableEq, Repr

/-- What is past the end of a script succeeds. -/
structure Script where
  lookups : List Line
  speeches : List Line

structure Scripted where
  resolved : List String
  handles : Nat
  spoken : List String

def Scripted.fresh : Scripted := ⟨[], 0, []⟩

def lineAt (lines : List Line) (n : Nat) : Line := lines[n]?.getD .succeeds

def Line.reply {α : Type} (line : Line) (value : α) : Reply α :=
  match line with
  | .succeeds => .returned (.ok value)
  | .fails e => .returned (.error e)
  | .panics p => .panicked p

def scripted (script : Script) : Connector Scripted Nat where
  lookup service r :=
    let line := lineAt script.lookups r.resolved.length
    ((line.reply r.handles, []),
      { r with
        resolved := r.resolved ++ [service]
        handles := if line = .succeeds then r.handles + 1 else r.handles })
  speak _ text r :=
    ((lineAt script.speeches r.spoken.length).reply (), { r with spoken := r.spoken ++ [text] })
  suspends := true

end CommandGateway.Robot
