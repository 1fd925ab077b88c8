import CommandGateway.Text.Utf8

/- Environment variables. A variable whose bytes are no text is as good as none. -/
namespace CommandGateway

structure Environment where
  settings : List (String × Bytes)

namespace Environment

def bytesOf (name : String) : List (String × Bytes) → Option Bytes
  | [] => none
  | (n, value) :: rest => if n = name then some value else bytesOf name rest

def get? (env : Environment) (name : String) : Option String :=
  (bytesOf name env.settings).bind Text.ofUtf8?

def set (env : Environment) (name value : String) : Environment :=
  ⟨(name, Text.utf8 value) :: env.settings⟩

def extend (env : Environment) (entry : String × String) : Environment :=
  match env.get? entry.1 with
  | some _ => env
  | none => env.set entry.1 entry.2

theorem get_set (env : Environment) (name value other : String) :
    (env.set name value).get? other = if name = other then some value else env.get? other := by
  by_cases same : name = other
  · simp [get?, set, bytesOf, same, Text.of_utf8_utf8]
  · simp [get?, set, bytesOf, same]

end Environment
end CommandGateway
