import CommandGateway.Json.Printer

/- Commands: a type tag and arguments. The kinds are a closed set; every other tag, also one that
   is absent or no text, is kept as unknown. -/
namespace CommandGateway

open Json

inductive CommandKind where
  | saySomething
  deriving DecidableEq, Repr

def CommandKind.all : List CommandKind := [.saySomething]

def CommandKind.wireName : CommandKind → String
  | .saySomething => "say_something"

def CommandKind.ofWire? (name : String) : Option CommandKind :=
  CommandKind.all.find? (·.wireName = name)

inductive CommandType where
  | known (kind : CommandKind)
  | unknown (tag : Option String)
  deriving DecidableEq, Repr

/-- A tag that is no text is unknown by its JSON text; `null` counts as absent. -/
def CommandType.ofJson : Value → CommandType
  | .string name =>
    match CommandKind.ofWire? name with
    | some kind => .known kind
    | none => .unknown (some name)
  | .null => .unknown none
  | v => .unknown (some v.render)

def CommandType.toJson : CommandType → Value
  | .known kind => .string kind.wireName
  | .unknown (some tag) => .string tag
  | .unknown none => .null

def CommandType.display : CommandType → String
  | .known kind => kind.wireName
  | .unknown (some tag) => tag
  | .unknown none => "<missing>"

structure Command where
  kind : CommandType
  args : List Value

/-- The text of an argument; `null` has none. -/
def argumentText : Value → Option String
  | .null => none
  | .string s => some s
  | v => some v.render

def joinArgs (args : List Value) : String := " ".intercalate (args.filterMap argumentText)

theorem CommandKind.of_wire_wire_name (kind : CommandKind) :
    CommandKind.ofWire? kind.wireName = some kind := by
  cases kind
  rfl

theorem CommandKind.of_wire_eq_some_iff {name : String} {kind : CommandKind} :
    CommandKind.ofWire? name = some kind ↔ kind.wireName = name := by
  cases kind
  constructor
  · intro h
    have := List.find?_some h
    simpa using this
  · intro h
    rw [← h]
    rfl

end CommandGateway
