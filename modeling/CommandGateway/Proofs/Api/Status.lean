import CommandGateway.Api.Status
import CommandGateway.Proofs.Json.Alike
import CommandGateway.Proofs.Tag
import CommandGateway.Proofs.Uuid

/- What the status document of a job tells. It has the members of the job's state, and null for
   those that the state does not have; so the job and its state can be told from it, every entry of
   the report included. -/
namespace CommandGateway.Api

open Json Pool

def TagsRead (r : Report) : Prop := ∀ c ∈ r.commands, c.kind.IsRead

def StateRead (s : JobState) : Prop := ∀ r, s = .completed r → TagsRead r

def statusDocument (id : Uuid) (s : JobState) : Value := (Status.ofState id s).toJson

section Reports
variable {c c' : CommandReport} {r r' : Report} {s s' : JobState}

theorem skip_reason_written_once {reason reason' : SkipReason}
    (same : reason.wireName = reason'.wireName) : reason = reason' := by
  revert same
  cases reason <;> cases reason' <;> simp [SkipReason.wireName]

def statusTold (status : CommandStatus) (key : String) : Option Value :=
  (lookup key status.members.reverse).map Value.sorted

theorem status_written_once {status status' : CommandStatus}
    (same : ∀ key ∈ ["status", "reason", "error"],
      statusTold status key = statusTold status' key) : status = status' := by
  have name := same "status" (by simp)
  have reason := same "reason" (by simp)
  have error := same "error" (by simp)
  cases status <;> cases status' <;>
    simp [statusTold, CommandStatus.members, lookup, Value.sorted] at name reason error ⊢
  case skipped.skipped => exact skip_reason_written_once reason
  case failed.failed => exact error

theorem entry_member (c : CommandReport) (key : String) :
    c.toJson.sorted.member? key =
      (statusTold c.status key).or
        ((lookup key [("type", c.kind.toJson), ("index", .int c.index)]).map Value.sorted) := by
  rw [CommandReport.toJson, member_sorted, List.reverse_cons, List.reverse_cons, lookup_append,
    lookup_append, Option.or_assoc, ← lookup_append, Option.map_or]
  rfl

theorem status_apart (status : CommandStatus) :
    statusTold status "index" = none ∧ statusTold status "type" = none := by
  cases status <;> simp [statusTold, CommandStatus.members, lookup]

theorem entry_index (c : CommandReport) :
    c.toJson.sorted.member? "index" = some (.int c.index) := by
  rw [entry_member, (status_apart c.status).1]
  simp [lookup, Value.sorted]

theorem entry_tag (c : CommandReport) : c.toJson.sorted.member? "type" = some c.kind.toJson := by
  rw [entry_member, (status_apart c.status).2]
  simp [lookup, tag_sorted]

theorem entry_status (c : CommandReport) {key : String}
    (own : key ∈ ["status", "reason", "error"]) :
    c.toJson.sorted.member? key = statusTold c.status key := by
  rw [entry_member]
  simp only [List.mem_cons, List.not_mem_nil, or_false] at own
  rcases own with rfl | rfl | rfl <;> simp [lookup]

theorem entry_written_once (read : c.kind.IsRead) (read' : c'.kind.IsRead)
    (alike : Alike c.toJson c'.toJson) : c = c' := by
  have members (key : String) : c.toJson.sorted.member? key = c'.toJson.sorted.member? key :=
    congrArg (Value.member? key) alike
  have index : c.index = c'.index := by
    have same := members "index"
    simpa [entry_index] using same
  have kind : c.kind = c'.kind := by
    have same := members "type"
    exact tag_written_once read read' (by simpa [entry_tag] using same)
  have status : c.status = c'.status := by
    refine status_written_once fun key own => ?_
    rw [← entry_status c own, ← entry_status c' own, members]
  cases c
  cases c'
  simp_all

theorem report_sorted (r : Report) : r.toJson.sorted =
    .object [("commands", .array (r.commands.map fun c => c.toJson.sorted))] := by
  simp [Report.toJson, Value.sorted, sortedMembers, sorted_items_eq, sortMembers, Json.insert]

/-- By induction on the entries of both reports, position by position. -/
theorem report_written_once (read : TagsRead r) (read' : TagsRead r')
    (alike : Alike r.toJson r'.toJson) : r = r' := by
  obtain ⟨cs⟩ := r
  obtain ⟨cs'⟩ := r'
  have same : (cs.map fun c => c.toJson.sorted) = cs'.map fun c => c.toJson.sorted := by
    simpa [Alike, report_sorted] using alike
  clear alike
  refine congrArg Report.mk ?_
  induction cs generalizing cs' with
  | nil => simpa using same
  | cons c cs ih =>
    cases cs' with
    | nil => simp at same
    | cons c' cs' =>
      obtain ⟨first, rest⟩ := List.cons.inj same
      obtain ⟨own, others⟩ := List.forall_mem_cons.mp read
      obtain ⟨own', others'⟩ := List.forall_mem_cons.mp read'
      rw [entry_written_once own own' first, ih others cs' others' rest]

end Reports

section Documents
variable {id id' : Uuid} {s s' : JobState}

def reportOf : JobState → Option Value
  | .completed r => some r.toJson.sorted
  | _ => none

def errorOf : JobState → Option Value
  | .failed error => some (.string error)
  | _ => none

theorem state_member (s : JobState) (key : String) : s.toJson.sorted.member? key =
    if key = "state" then some (.string s.name)
    else if key = "report" then reportOf s
    else if key = "error" then errorOf s
    else none := by
  simp only [JobState.toJson, member_sorted]
  cases s <;> simp [lookup, reportOf, errorOf] <;> grind [Value.sorted]

theorem document_member (id : Uuid) (s : JobState) (key : String) :
    (statusDocument id s).sorted.member? key =
      if key = "id" then some (.string id.text)
      else if key = "state" then some (.string s.name)
      else if key = "report" then some ((reportOf s).getD .null)
      else if key = "error" then some ((errorOf s).getD .null)
      else none := by
  simp only [statusDocument, Status.toJson, member_sorted]
  cases s <;> simp [lookup, Status.ofState, JobState.name, reportOf, errorOf] <;>
    grind [Value.sorted, sorted_sorted]

theorem report_not_null (s : JobState) : reportOf s ≠ some .null := by
  cases s <;> simp [reportOf, report_sorted]

theorem error_not_null (s : JobState) : errorOf s ≠ some .null := by
  cases s <;> simp [errorOf]

theorem null_iff_none {member : Option Value} (apart : member ≠ some .null) :
    member.getD .null = .null ↔ member = none := by
  cases member with
  | none => simp
  | some v => simpa using apart

/-- The document has what the state has, and says of the rest that there is none. -/
structure Mirrors (id : Uuid) (s : JobState) (document : Value) : Prop where
  id : document.sorted.member? "id" = some (.string id.text)
  own : ∀ key ∈ ["state", "report", "error"],
    document.sorted.member? key = some ((s.toJson.sorted.member? key).getD .null)
  absent : ∀ key ∈ ["state", "report", "error"],
    document.sorted.member? key = some .null ↔ s.toJson.sorted.member? key = none
  others : ∀ key ∉ ["id", "state", "report", "error"],
    document.sorted.member? key = none ∧ s.toJson.sorted.member? key = none
  completed : ∀ r, s = .completed r →
    document.sorted.member? "report" = some r.toJson.sorted ∧ r.toJson.sorted ≠ .null

theorem document_mirrors (id : Uuid) (s : JobState) : Mirrors id s (statusDocument id s) := by
  have report := report_not_null s
  have error := error_not_null s
  constructor
  case id => simp [document_member]
  case own =>
    intro key own
    simp only [List.mem_cons, List.not_mem_nil, or_false] at own
    rcases own with rfl | rfl | rfl <;> simp [document_member, state_member]
  case absent =>
    intro key own
    simp only [List.mem_cons, List.not_mem_nil, or_false] at own
    rcases own with rfl | rfl | rfl <;>
      simp [document_member, state_member, null_iff_none report, null_iff_none error]
  case others =>
    intro key other
    simp only [List.mem_cons, List.not_mem_nil, or_false, not_or] at other
    simp [document_member, state_member, other]
  case completed =>
    rintro r rfl
    simp [document_member, reportOf, report_sorted]

theorem sorted_mirrors {v : Value} (mirrors : Mirrors id s v) : Mirrors id s v.sorted := by
  obtain ⟨own, members, absent, others, completed⟩ := mirrors
  constructor <;> simpa only [sorted_sorted]

/-- The job and its state can be told from the document: the state by its name, and then the report
    or the error from the member for it. -/
theorem document_written_once (read : StateRead s) (read' : StateRead s')
    (alike : Alike (statusDocument id s) (statusDocument id' s')) : id = id' ∧ s = s' := by
  have members (key : String) :
      (statusDocument id s).sorted.member? key = (statusDocument id' s').sorted.member? key :=
    congrArg (Value.member? key) alike
  have ids := members "id"
  have names := members "state"
  have reports := members "report"
  have errors := members "error"
  simp [document_member] at ids names reports errors
  refine ⟨Uuid.text_injective ids, ?_⟩
  cases s <;> cases s' <;> simp [JobState.name, reportOf, errorOf] at names reports errors ⊢
  case completed.completed r r' => exact report_written_once (read r rfl) (read' r' rfl) reports
  case failed.failed => exact errors

end Documents

section Texts
variable {id id' : Uuid} {s s' : JobState} {depth : Nat}

def Counted (s : JobState) : Prop := ∀ r, s = .completed r → ∀ c ∈ r.commands, c.index < 2 ^ 64

/-- Sorting moves the members, so every one of them is kept from the key that is set apart. -/
theorem entry_writable {c : CommandReport} (counted : c.index < 2 ^ 64) :
    Writable (depth + 1) c.toJson.sorted := by
  have index : Writable depth (.int c.index) :=
    .scalar (.int c.index (by omega) (by omega)) (by simp [IsFloat])
  have status : ∀ m ∈ c.status.members, m.1 ≠ embedKey ∧ Writable depth m.2.sorted := by
    cases c.status <;>
      simp [CommandStatus.members, embedKey, Value.sorted, string_writable]
  have each : ∀ m ∈ sortMembers (sortedMembers
      (("index", .int c.index) :: ("type", c.kind.toJson) :: c.status.members)),
      m.1 ≠ embedKey ∧ Writable depth m.2 := by
    intro m member
    have own := mem_sort member
    rw [sorted_members_eq] at own
    obtain ⟨n, here, rfl⟩ := List.mem_map.mp own
    rcases List.mem_cons.mp here with rfl | here
    · exact ⟨by simp [embedKey], index⟩
    rcases List.mem_cons.mp here with rfl | here
    · exact ⟨by simp [embedKey], by simpa [tag_sorted] using tag_writable c.kind⟩
    · exact status n here
  rw [CommandReport.toJson, Value.sorted]
  exact .object (fun m first => (each m (List.mem_of_mem_head? first)).1) fun m member =>
    (each m member).2

theorem report_writable {r : Report} (counted : ∀ c ∈ r.commands, c.index < 2 ^ 64) :
    Writable (depth + 3) r.toJson.sorted := by
  have entries : ∀ v ∈ r.commands.map fun c => c.toJson.sorted, Writable (depth + 1) v := by
    intro v member
    obtain ⟨c, own, rfl⟩ := List.mem_map.mp member
    exact entry_writable (counted c own)
  rw [report_sorted]
  exact .object (by simp [embedKey]) (by simpa using Writable.array entries)

theorem document_writable (counted : Counted s) :
    Writable (depth + 4) (statusDocument id s) := by
  refine .object (by simp [embedKey]) ?_
  cases s <;> simp [Status.ofState, string_writable, null_writable]
  case completed r => exact report_writable (counted r rfl)

def documentText (id : Uuid) : JobState → String
  | .queued =>
    "\x7b\"id\":\"" ++ id.text ++ "\",\"state\":\"queued\",\"report\":null,\"error\":null\x7d"
  | .running =>
    "\x7b\"id\":\"" ++ id.text ++ "\",\"state\":\"running\",\"report\":null,\"error\":null\x7d"
  | .completed report =>
    "\x7b\"id\":\"" ++ id.text ++ "\",\"state\":\"completed\",\"report\":" ++
      report.toJson.sorted.render ++ ",\"error\":null\x7d"
  | .failed error =>
    "\x7b\"id\":\"" ++ id.text ++ "\",\"state\":\"failed\",\"report\":null,\"error\":" ++
      quote error ++ "\x7d"

theorem id_unescaped (id : Uuid) : ∀ c ∈ id.text.toList, Unescaped c := by
  have letters : ∀ c ∈ '-' :: "0123456789abcdef".toList, Unescaped c := by simp [Unescaped]
  intro c member
  exact letters c (List.mem_cons.mpr ((Uuid.text_canonical id).letters c member))

theorem document_written (id : Uuid) (s : JobState) :
    (statusDocument id s).render = documentText id s := by
  have own := quote_unescaped (id_unescaped id)
  have plain : ∀ word ∈ ["id", "state", "report", "error", "queued", "running", "completed",
      "failed"], ∀ c ∈ word.toList, Unescaped c := by simp [Unescaped]
  have words := fun word listed => quote_unescaped (plain word listed)
  apply String.toList_inj.mp
  cases s <;>
    simp [statusDocument, Status.toJson, Status.ofState, documentText, Value.render, memberTexts,
      own, words]

theorem text_alike {v w : Value} (own : Writable deepest v) (own' : Writable deepest w)
    (same : v.render = w.render) : Alike v w := by
  have back := render_read own
  rw [same, render_read own'] at back
  exact (Except.ok.inj back).symm

/-- The document of a job and its state goes with them, and with no others. -/
structure Unmistakable (id : Uuid) (s : JobState) : Prop where
  mirrors : Mirrors id s (statusDocument id s)
  apart : ∀ id' s', StateRead s' → Alike (statusDocument id s) (statusDocument id' s') →
    id = id' ∧ s = s'
  texts : ∀ id' s', StateRead s' → Counted s → Counted s' →
    (statusDocument id s).render = (statusDocument id' s').render → id = id' ∧ s = s'

theorem status_document_faithful (id : Uuid) (read : StateRead s) : Unmistakable id s := by
  constructor
  case mirrors => exact document_mirrors id s
  case apart =>
    intro id' s' read' alike
    exact document_written_once read read' alike
  case texts =>
    intro id' s' read' counted counted' same
    exact document_written_once read read'
      (text_alike (document_writable counted) (document_writable counted') same)

end Texts

def numbered : JobState :=
  .completed ⟨[⟨0, .known .saySomething, .performed⟩, ⟨1, .unknown (some "7"), .unknownType⟩]⟩

theorem status_document_of_numbered : StateRead numbered ∧ Unmistakable (.ofNat 7) numbered := by
  have read : StateRead numbered := by
    rintro r ⟨⟩ c member
    simp only [List.mem_cons, List.not_mem_nil, or_false] at member
    rcases member with rfl | rfl
    · exact ⟨.string "say_something", rfl⟩
    · exact ⟨.int 7, rfl⟩
  exact ⟨read, status_document_faithful (.ofNat 7) read⟩

end CommandGateway.Api
