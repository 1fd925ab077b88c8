import CommandGateway.Json.Printer
import CommandGateway.Json.Fault
import CommandGateway.Text.Shown

/- How a value is named when something else was wanted in its place. -/
namespace CommandGateway.Json

def Found.ofValue : Value → Found
  | .null => .null
  | .bool b => .bool b
  | .int n => .int n
  | .float bits => .float (floatText bits)
  | .string s => .text (Text.shown s)
  | .array _ => .sequence
  | .object _ => .map

end CommandGateway.Json
