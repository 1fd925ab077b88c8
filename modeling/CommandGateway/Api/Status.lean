import CommandGateway.Pool.Tracker

/- The status document of a job, and the document that explains a refusal. -/
namespace CommandGateway.Api

open Json Pool

structure Status where
  id : Uuid
  state : String
  report : Option Value
  error : Option String

/-- The report's members are in the order of their names. -/
def Status.ofState (id : Uuid) : JobState → Status
  | .queued => ⟨id, "queued", none, none⟩
  | .running => ⟨id, "running", none, none⟩
  | .completed report => ⟨id, "completed", some report.toJson.sorted, none⟩
  | .failed error => ⟨id, "failed", none, some error⟩

def Status.toJson (s : Status) : Value :=
  .object [("id", .string s.id.text), ("state", .string s.state),
    ("report", s.report.getD .null), ("error", (s.error.map Value.string).getD .null)]

structure Explanation where
  message : String

def Explanation.toJson (e : Explanation) : Value := .object [("message", .string e.message)]

end CommandGateway.Api
