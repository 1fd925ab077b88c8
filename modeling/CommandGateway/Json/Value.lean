/- JSON values. A fraction is kept by the bits of its binary64 form, so that values can be
   compared; an integer is kept exactly. The members of an object stand in the order in which
   they are written out: documents that were read have them sorted by key, each key once. -/
namespace CommandGateway.Json

inductive Value where
  | null
  | bool (b : Bool)
  | int (n : Int)
  | float (bits : UInt64)
  | string (s : String)
  | array (items : List Value)
  | object (members : List (String × Value))
  deriving Inhabited

abbrev Member := String × Value

def Value.text? : Value → Option String
  | .string s => some s
  | _ => none

section Entries
variable {α : Type}

def lookup (key : String) : List (String × α) → Option α
  | [] => none
  | (k, v) :: ms => if k = key then some v else lookup key ms

def insert (m : String × α) : List (String × α) → List (String × α)
  | [] => [m]
  | n :: ms =>
    if m.1 = n.1 then m :: ms
    else if m.1 < n.1 then m :: n :: ms
    else n :: insert m ms

/-- Entries in sorted order, the last of several with one key winning. -/
def sortMembers (ms : List (String × α)) : List (String × α) :=
  ms.foldl (fun done m => insert m done) []

end Entries

mutual
def Value.sorted : Value → Value
  | .array items => .array (sortedItems items)
  | .object members => .object (sortMembers (sortedMembers members))
  | .null => .null
  | .bool b => .bool b
  | .int n => .int n
  | .float bits => .float bits
  | .string s => .string s

def sortedItems : List Value → List Value
  | [] => []
  | v :: vs => v.sorted :: sortedItems vs

def sortedMembers : List Member → List Member
  | [] => []
  | (k, v) :: ms => (k, v.sorted) :: sortedMembers ms
end

end CommandGateway.Json
