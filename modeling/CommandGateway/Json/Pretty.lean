import CommandGateway.Json.Printer

/- JSON text over several lines, two spaces deeper for each level. Empty lists and objects stay on
   one line. -/
namespace CommandGateway.Json

def indent (depth : Nat) : String := String.ofList (List.replicate (2 * depth) ' ')

def lineAt (depth : Nat) (text : String) : String := "\n" ++ indent depth ++ text

def bracketed (opening closing : String) (depth : Nat) (items : List String) : String :=
  if items.isEmpty then opening ++ closing
  else
    opening ++ ",".intercalate (items.map (lineAt (depth + 1))) ++ lineAt depth closing

mutual
def Value.prettyAt (depth : Nat) : Value → String
  | .array items => bracketed "[" "]" depth (prettyItems (depth + 1) items)
  | .object members => bracketed "\x7b" "\x7d" depth (prettyMembers (depth + 1) members)
  | .null => Value.render .null
  | .bool b => Value.render (.bool b)
  | .int n => Value.render (.int n)
  | .float bits => Value.render (.float bits)
  | .string s => Value.render (.string s)

def prettyItems (depth : Nat) : List Value → List String
  | [] => []
  | v :: vs => v.prettyAt depth :: prettyItems depth vs

def prettyMembers (depth : Nat) : List Member → List String
  | [] => []
  | (k, v) :: ms => (quote k ++ ": " ++ v.prettyAt depth) :: prettyMembers depth ms
end

def Value.pretty (v : Value) : String := v.prettyAt 0

end CommandGateway.Json
