import CommandGateway.Proofs.Dispatch

/- What a command that fails does to the others of its batch. However the work of its handler ends,
   only the command itself has failed. A handler that panics when it is called, before it has given
   any work, stops the whole batch instead: the commands before it were attempted, none after it is,
   and there is no report. -/
namespace CommandGateway

variable {H : Type}

def eagerPanic? (registry : Registry H) (command : Command) : Option Panic :=
  match handlerOf registry command with
  | none => none
  | some handler =>
    match handler command.args with
    | .started _ => none
    | .panicked p => some p

/-- How a dispatch ends: with a report of all commands, each failure being that of its own command,
    or at the first handler that panics when it is called. -/
inductive Isolated (registry : Registry H) (batch : Batch) : List (Deed H) → Ended Report → Prop
  | reported (attempts : List (Attempt H)) (deeds : List (Deed H)) (report : Report)
      (calm : ∀ command ∈ batch.commands, eagerPanic? registry command = none)
      (faithful : Faithful registry batch attempts deeds report)
      (erred : ∀ a ∈ attempts, ∀ own e, a.call = some ⟨own, .returned (.error e)⟩ →
        report.commands[a.index]? = some ⟨a.index, a.command.kind, .failed e.message⟩)
      (panicked : ∀ a ∈ attempts, ∀ own p, a.call = some ⟨own, .panicked p⟩ →
        report.commands[a.index]? =
          some ⟨a.index, a.command.kind, .failed ("handler panicked: " ++ p.message)⟩) :
      Isolated registry batch deeds (.returned report)
  | stopped (before after : List Command) (command : Command) (p : Panic)
      (attempts : List (Attempt H)) (split : batch.commands = before ++ command :: after)
      (calm : ∀ other ∈ before, eagerPanic? registry other = none)
      (eager : eagerPanic? registry command = some p)
      (commands : attempts.map Attempt.command = before)
      (indices : attempts.map Attempt.index = List.range before.length)
      (fits : ∀ a ∈ attempts, a.Fits registry) :
      Isolated registry batch
        (attempts.flatMap Attempt.deeds ++ [.logged (processingEvent before.length command)])
        (.panicked p)

section Eager
variable {registry : Registry H} {index : Nat} {command : Command} {p : Panic}
  {deeds : List (Deed H)}

theorem gives_futures_iff {commands : List Command} :
    GivesFutures registry commands ↔
      ∀ command ∈ commands, eagerPanic? registry command = none := by
  constructor
  · intro futures command member
    unfold eagerPanic?
    split
    · rfl
    · rename_i handler known
      obtain ⟨work, started⟩ := futures command member handler known
      simp only [started]
  · intro calm command member handler known
    have none := calm command member
    simp only [eagerPanic?, known] at none
    split at none
    · rename_i work started
      exact ⟨work, started⟩
    · cases none

theorem attempt_eager (eager : eagerPanic? registry command = some p) :
    attempt registry index command = .done (.panicked p) := by
  unfold eagerPanic? at eager
  split at eager
  · cases eager
  · rename_i handler known
    split at eager
    · cases eager
    · rename_i q panicked
      cases eager
      unfold attempt
      cases tag : command.kind with
      | known kind =>
        have found : registry.get? kind = some handler := by simpa [handlerOf, tag] using known
        simp only [found, panicked]
      | unknown name => simp [handlerOf, tag] at known

theorem first_eager (registry : Registry H) (commands : List Command) :
    (∀ command ∈ commands, eagerPanic? registry command = none) ∨
      ∃ before command after p, commands = before ++ command :: after ∧
        (∀ other ∈ before, eagerPanic? registry other = none) ∧
        eagerPanic? registry command = some p := by
  induction commands with
  | nil => exact Or.inl (by simp)
  | cons first rest ih =>
    cases eager : eagerPanic? registry first with
    | some p => exact Or.inr ⟨[], first, rest, p, rfl, by simp, eager⟩
    | none =>
      rcases ih with calm | ⟨before, command, after, p, rfl, calm, later⟩
      · exact Or.inl (List.forall_mem_cons.mpr ⟨eager, calm⟩)
      · exact Or.inr ⟨first :: before, command, after, p, rfl,
          List.forall_mem_cons.mpr ⟨eager, calm⟩, later⟩

theorem eager_course {before after : List Command} {done : List CommandReport}
    {result : Ended (List CommandReport)}
    (calm : ∀ other ∈ before, eagerPanic? registry other = none)
    (eager : eagerPanic? registry command = some p)
    (course : Course (attemptFrom registry 0 done (before ++ command :: after)) deeds result) :
    ∃ attempts : List (Attempt H), attempts.map Attempt.command = before ∧
      attempts.map Attempt.index = List.range before.length ∧ (∀ a ∈ attempts, a.Fits registry) ∧
      deeds = attempts.flatMap Attempt.deeds ++
        [.logged (processingEvent before.length command)] ∧ result = .panicked p := by
  obtain ⟨attempts, later, commands, indices, fits, rfl, last⟩ :=
    attempt_from_append_course (gives_futures_iff.mpr calm) course
  obtain ⟨tail, rfl, attempted⟩ := course_log_iff.mp last
  rw [attempt_eager eager] at attempted
  obtain ⟨rfl, rfl⟩ := course_done_iff.mp attempted
  exact ⟨attempts, commands, by rw [indices, List.range_eq_range'], fits, by simp, rfl⟩

end Eager

section Stopped
variable {registry : Registry H} {batch : Batch} {deeds : List (Deed H)} {result : Ended Report}

theorem eager_dispatch_course {before after : List Command} {command : Command} {p : Panic}
    (split : batch.commands = before ++ command :: after)
    (calm : ∀ other ∈ before, eagerPanic? registry other = none)
    (eager : eagerPanic? registry command = some p)
    (course : Course (dispatch registry batch) deeds result) :
    ∃ attempts : List (Attempt H), attempts.map Attempt.command = before ∧
      attempts.map Attempt.index = List.range before.length ∧ (∀ a ∈ attempts, a.Fits registry) ∧
      deeds = attempts.flatMap Attempt.deeds ++
        [.logged (processingEvent before.length command)] ∧ result = .panicked p := by
  obtain ⟨first, ended, second, rfl, attempted, closing⟩ := bind_course course
  rw [split] at attempted
  obtain ⟨attempts, commands, indices, fits, rfl, rfl⟩ := eager_course calm eager attempted
  obtain ⟨rfl, rfl⟩ := course_done_iff.mp closing
  exact ⟨attempts, commands, indices, fits, by simp, rfl⟩

theorem report_at_index {attempts : List (Attempt H)} {report : Report}
    (faithful : Faithful registry batch attempts deeds report) {a : Attempt H}
    (member : a ∈ attempts) :
    report.commands[a.index]? = some ⟨a.index, a.command.kind, a.status⟩ := by
  obtain ⟨i, bound, rfl⟩ := List.getElem_of_mem member
  have size : attempts.length = batch.commands.length := by
    simpa using congrArg List.length faithful.indices
  have index : (attempts.map Attempt.index)[i]? = some i := by
    rw [faithful.indices, List.getElem?_range (size ▸ bound)]
  have same : attempts[i].index = i := by simpa [bound] using index
  rw [faithful.reports, List.getElem?_map, same, List.getElem?_eq_getElem bound]
  simp [Attempt.report, same]

theorem failure_stays_with_its_command (course : Course (dispatch registry batch) deeds result) :
    Isolated registry batch deeds result := by
  rcases first_eager registry batch.commands with
    calm | ⟨before, command, after, p, split, calm, eager⟩
  · obtain ⟨attempts, report, rfl, faithful⟩ :=
      dispatch_faithful (gives_futures_iff.mpr calm) course
    refine .reported attempts deeds report calm faithful ?_ ?_
    · intro a member own e called
      rw [report_at_index faithful member, Attempt.status, called]
      rfl
    · intro a member own p called
      rw [report_at_index faithful member, Attempt.status, called]
      rfl
  · obtain ⟨attempts, commands, indices, fits, rfl, rfl⟩ :=
      eager_dispatch_course split calm eager course
    exact .stopped before after command p attempts split calm eager commands indices fits

theorem failures_stay_in_mixed_batch : ∃ deeds,
    Isolated (Registry.empty.register .saySomething obedient) mixed deeds
      (.returned mixedReport) := by
  obtain ⟨deeds, course⟩ := mixed_can_end
  exact ⟨deeds, failure_stays_with_its_command course⟩

end Stopped

def hasty : Handler Unit := fun args =>
  if joinArgs args = "boom" then .panicked (.text "eager boom")
  else .started (.done (.returned (.ok .performed)))

def hastyRegistry : Registry Unit := Registry.empty.register .saySomething hasty

def saying (word : String) : Command := ⟨.known .saySomething, [.string word]⟩

def boomThenOk : Batch := ⟨[saying "boom", saying "ok"], by simp⟩

/-- The first command is not reported as failed, the second is never attempted, and there is no
    report at all. -/
theorem eager_panic_stops_batch :
    (∀ result, (dispatch hastyRegistry boomThenOk).canEnd result ↔
      result = .panicked (.text "eager boom")) ∧
    ∀ deeds result, Course (dispatch hastyRegistry boomThenOk) deeds result →
      deeds = [.logged (processingEvent 0 (saying "boom"))] := by
  have eager : eagerPanic? hastyRegistry (saying "boom") = some (.text "eager boom") := by decide
  have only : ∀ {deeds result}, Course (dispatch hastyRegistry boomThenOk) deeds result →
      deeds = [.logged (processingEvent 0 (saying "boom"))] ∧
        result = .panicked (.text "eager boom") := by
    intro deeds result course
    have first : boomThenOk.commands = [] ++ saying "boom" :: [saying "ok"] := rfl
    obtain ⟨attempts, none, -, -, rfl, rfl⟩ :=
      eager_dispatch_course first (by simp) eager course
    obtain rfl := List.map_eq_nil_iff.mp none
    exact ⟨rfl, rfl⟩
  refine ⟨fun result => ⟨?_, ?_⟩, fun deeds result course => (only course).1⟩
  · rintro ⟨deeds, course⟩
    exact (only course).2
  · rintro rfl
    obtain ⟨deeds, course⟩ := run_can_end (dispatch hastyRegistry boomThenOk) (.offline ())
    rw [(only course).2] at course
    exact ⟨deeds, course⟩

end CommandGateway
