import CommandGateway.Net.Domain.DirectionTable

/- Labels of names that have text written from right to left. Each must have one direction that
   its first letter tells, so that the labels of a name are never shown out of order. -/
namespace CommandGateway.Net

def directionOf (c : Char) : Direction :=
  match directionRuns.find? fun r => r.first ≤ c.toNat && c.toNat ≤ r.last with
  | some r => r.direction
  | none => .left

/-- Whether a character makes all labels of its name obey the rule. -/
def Direction.turns : Direction → Bool
  | .right | .arabicLetter | .arabicNumber => true
  | _ => false

def Direction.isCommon : Direction → Bool
  | .europeanNumber | .europeanSeparator | .europeanTerminator | .commonSeparator => true
  | .mark | .boundary | .neutral => true
  | _ => false

def lastDirection (ds : List Direction) : Option Direction :=
  (ds.filter (· ≠ .mark)).getLast?

def isLeftLabel (ds : List Direction) : Bool :=
  (ds.all fun d => d = .left || d.isCommon) &&
    match lastDirection ds with
    | some d => d = .left || d = .europeanNumber
    | none => false

/-- Numbers of both kinds do not stand in one label. -/
def isRightLabel (ds : List Direction) : Bool :=
  (ds.all fun d => d.turns || d.isCommon) &&
    !(ds.contains .europeanNumber && ds.contains .arabicNumber) &&
    match lastDirection ds with
    | some d => d.turns || d = .europeanNumber
    | none => false

def isOneWay (label : List Char) : Bool :=
  let ds := label.map directionOf
  match ds with
  | .left :: _ => isLeftLabel ds
  | .right :: _ => isRightLabel ds
  | .arabicLetter :: _ => isRightLabel ds
  | _ => false

/-- Whether a name of these labels, of which empty ones do not count, keeps the rule. -/
def keepDirections (labels : List (List Char)) : Bool :=
  !(labels.any fun label => label.any (directionOf · |>.turns)) ||
    labels.all fun label => label.isEmpty || isOneWay label

end CommandGateway.Net
