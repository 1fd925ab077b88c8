import CommandGateway.Net.Ip

/- Where a server listens: an internet address and a port. -/
namespace CommandGateway.Net

/-- An address of eight groups may name a zone of the network; zone 0 is none. -/
inductive Socket where
  | v4 (address : V4) (port : Nat)
  | v6 (address : V6) (zone port : Nat)
  deriving DecidableEq

def Socket.text : Socket → String
  | .v4 address port => address.text ++ ":" ++ toString port
  | .v6 address zone port =>
    "[" ++ address.text ++ (if zone = 0 then "" else "%" ++ toString zone) ++ "]:" ++ toString port

def readPort (cs : List Char) : Option (Nat × List Char) :=
  (skipChar ':' cs).bind (readNumber 10 65536)

/-- A zone behind a percent sign. What is not one is left where it stands. -/
def readZone (cs : List Char) : Nat × List Char :=
  match (skipChar '%' cs).bind (readNumber 10 (Nat.pow 2 32)) with
  | some (zone, rest) => (zone, rest)
  | none => (0, cs)

def readSocketV4 (cs : List Char) : Option (Socket × List Char) := do
  let (address, cs) ← readV4 cs
  let (port, cs) ← readPort cs
  some (.v4 address port, cs)

def readSocketV6 (cs : List Char) : Option (Socket × List Char) := do
  let cs ← skipChar '[' cs
  let (address, cs) ← readV6 cs
  let (zone, cs) := readZone cs
  let cs ← skipChar ']' cs
  let (port, cs) ← readPort cs
  some (.v6 address zone port, cs)

def Socket.ofText? (s : String) : Option Socket :=
  match (readSocketV4 s.toList).orElse fun _ => readSocketV6 s.toList with
  | some (socket, []) => some socket
  | _ => none

end CommandGateway.Net
