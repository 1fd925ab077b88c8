import CommandGateway.Actuator

/- A robot for trials that remembers what it is asked to do. There is one actuator, whatever the
   service; the first few lookups may fail, and every utterance may. -/
namespace CommandGateway.Robot

structure Recording where
  resolutions : Nat
  failuresLeft : Nat
  spoken : List String

def Recording.fresh (failuresLeft : Nat) : Recording := ⟨0, failuresLeft, []⟩

def recorder (lookupFailure speechFailure : Option ActuatorError) : Connector Recording Unit where
  lookup _ r :=
    let reply : Reply Unit :=
      match r.failuresLeft, lookupFailure with
      | _ + 1, some e => .returned (.error e)
      | _, _ => .returned (.ok ())
    ((reply, []), { r with resolutions := r.resolutions + 1, failuresLeft := r.failuresLeft - 1 })
  speak _ text r :=
    let reply : Reply Unit :=
      match speechFailure with
      | some e => .returned (.error e)
      | none => .returned (.ok ())
    (reply, { r with spoken := r.spoken ++ [text] })
  suspends := false

end CommandGateway.Robot
