import CommandGateway.Json.Printer
import CommandGateway.Text.Shown

/- Values as the log shows them: each with the name of its kind, and texts in quotes. -/
namespace CommandGateway.Json

mutual
def Value.shown : Value → String
  | .null => "Null"
  | .bool true => "Bool(true)"
  | .bool false => "Bool(false)"
  | .int n => "Number(" ++ toString n ++ ")"
  | .float bits => "Number(" ++ floatText bits ++ ")"
  | .string s => "String(" ++ Text.shown s ++ ")"
  | .array items => "Array [" ++ ", ".intercalate (itemsShown items) ++ "]"
  | .object members => "Object \x7b" ++ ", ".intercalate (membersShown members) ++ "\x7d"

def itemsShown : List Value → List String
  | [] => []
  | v :: vs => v.shown :: itemsShown vs

def membersShown : List Member → List String
  | [] => []
  | (k, v) :: ms => (Text.shown k ++ ": " ++ v.shown) :: membersShown ms
end

end CommandGateway.Json
