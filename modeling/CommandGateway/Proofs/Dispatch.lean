import CommandGateway.Dispatch
import CommandGateway.Proofs.Course
import Mathlib.Data.List.Range

/- What a dispatch does, whatever its handlers do. Its deeds are one stretch for each command, in
   order, and each stretch has one complete course of the work that the command's handler gave. -/
namespace CommandGateway

variable {H : Type}

def handlerOf (registry : Registry H) (command : Command) : Option (Handler H) :=
  match command.kind with
  | .known kind => registry.get? kind
  | .unknown _ => none

/-- No handler panics before it has any work to do. -/
def GivesFutures (registry : Registry H) (commands : List Command) : Prop :=
  ∀ command ∈ commands, ∀ handler, handlerOf registry command = some handler →
    ∃ work, handler command.args = .started work

structure HandlerCall (H : Type) where
  deeds : List (Deed H)
  ended : Handled

/-- What was done for one command. -/
structure Attempt (H : Type) where
  index : Nat
  command : Command
  call : Option (HandlerCall H)

def statusOf : Handled → CommandStatus
  | .returned (.ok .performed) => .performed
  | .returned (.ok (.skipped reason)) => .skipped reason
  | .returned (.error e) => .failed e.message
  | .panicked p => .failed ("handler panicked: " ++ p.message)

def settleEvents (index : Nat) (kind : CommandType) : Handled → List Event
  | .returned (.ok _) => []
  | .returned (.error e) => [failedEvent index kind e.message]
  | .panicked p => [panickedEvent index kind p]

namespace Attempt

def status (a : Attempt H) : CommandStatus :=
  match a.call with
  | some call => statusOf call.ended
  | none => .unknownType

def report (a : Attempt H) : CommandReport := ⟨a.index, a.command.kind, a.status⟩

def missingEvent (a : Attempt H) : Event :=
  match a.command.kind with
  | .known _ => noHandlerEvent a.index a.command.kind
  | .unknown _ => unknownTypeEvent a.index a.command.kind

def body (a : Attempt H) : List (Deed H) :=
  match a.call with
  | some call => call.deeds ++ (settleEvents a.index a.command.kind call.ended).map .logged
  | none => [.logged a.missingEvent]

def deeds (a : Attempt H) : List (Deed H) :=
  .logged (processingEvent a.index a.command) :: a.body

/-- A command with a handler was attempted by one call of it with the command's arguments, and no
    other command by any call. -/
def Fits (registry : Registry H) (a : Attempt H) : Prop :=
  match handlerOf registry a.command, a.call with
  | some handler, some call =>
    ∃ work, handler a.command.args = .started work ∧ Course work call.deeds call.ended
  | none, none => True
  | _, _ => False

end Attempt

section Attempts
variable {registry : Registry H} {index : Nat} {command : Command} {deeds : List (Deed H)}

theorem settle_course {kind : CommandType} {ended : Handled} {result : Ended CommandStatus}
    (course : Course (settle index kind ended) deeds result) :
    deeds = (settleEvents index kind ended).map .logged ∧ result = .returned (statusOf ended) := by
  match ended with
  | .returned (.ok .performed) => exact course_done_iff.mp course
  | .returned (.ok (.skipped reason)) => exact course_done_iff.mp course
  | .returned (.error e) =>
    obtain ⟨rest, rfl, last⟩ := course_log_iff.mp course
    obtain ⟨rfl, rfl⟩ := course_done_iff.mp last
    exact ⟨rfl, rfl⟩
  | .panicked p =>
    obtain ⟨rest, rfl, last⟩ := course_log_iff.mp course
    obtain ⟨rfl, rfl⟩ := course_done_iff.mp last
    exact ⟨rfl, rfl⟩

theorem handled_course {handler : Handler H} {work : Work H Handled}
    {result : Ended CommandStatus} (known : handlerOf registry command = some handler)
    (started : handler command.args = .started work)
    (course : Course (attempt registry index command) deeds result) :
    ∃ a : Attempt H, a.index = index ∧ a.command = command ∧ a.Fits registry ∧
      deeds = a.body ∧ result = .returned a.status := by
  have same : attempt registry index command = work.bind (settle index command.kind) := by
    unfold attempt
    unfold handlerOf at known
    split at known
    · rename_i kind tag
      simp only [tag, known, started]
    · cases known
  rw [same] at course
  obtain ⟨first, ended, second, rfl, call, closing⟩ := bind_course course
  obtain ⟨rfl, rfl⟩ := settle_course closing
  refine ⟨⟨index, command, some ⟨first, ended⟩⟩, rfl, rfl, ?_, rfl, rfl⟩
  simp only [Attempt.Fits, known]
  exact ⟨work, started, call⟩

theorem unhandled_course {result : Ended CommandStatus}
    (missing : handlerOf registry command = none)
    (course : Course (attempt registry index command) deeds result) :
    ∃ a : Attempt H, a.index = index ∧ a.command = command ∧ a.Fits registry ∧
      deeds = a.body ∧ result = .returned a.status := by
  have same : attempt registry index command =
      .log (Attempt.missingEvent (H := H) ⟨index, command, none⟩)
        (.done (.returned .unknownType)) := by
    unfold attempt Attempt.missingEvent
    unfold handlerOf at missing
    split at missing
    · rename_i kind tag
      simp only [tag, missing]
    · rename_i tag
      simp only [tag]
  rw [same] at course
  obtain ⟨rest, rfl, last⟩ := course_log_iff.mp course
  obtain ⟨rfl, rfl⟩ := course_done_iff.mp last
  refine ⟨⟨index, command, none⟩, rfl, rfl, ?_, rfl, rfl⟩
  simp only [Attempt.Fits, missing]

theorem attempt_course {result : Ended CommandStatus}
    (futures : ∀ handler, handlerOf registry command = some handler →
      ∃ work, handler command.args = .started work)
    (course : Course (attempt registry index command) deeds result) :
    ∃ a : Attempt H, a.index = index ∧ a.command = command ∧ a.Fits registry ∧
      deeds = a.body ∧ result = .returned a.status := by
  cases known : handlerOf registry command with
  | none => exact unhandled_course known course
  | some handler =>
    obtain ⟨work, started⟩ := futures handler known
    exact handled_course known started course

/-- The commands from a position on, by induction on those before the rest: what was reported before
    stays as it is, and each command adds its own stretch of deeds and its own report. -/
theorem attempt_from_append_course {before rest : List Command} {done : List CommandReport}
    {result : Ended (List CommandReport)} (futures : GivesFutures registry before)
    (course : Course (attemptFrom registry index done (before ++ rest)) deeds result) :
    ∃ (attempts : List (Attempt H)) (later : List (Deed H)),
      attempts.map Attempt.command = before ∧
      attempts.map Attempt.index = List.range' index before.length ∧
      (∀ a ∈ attempts, a.Fits registry) ∧ deeds = attempts.flatMap Attempt.deeds ++ later ∧
      Course (attemptFrom registry (index + before.length)
        ((attempts.map Attempt.report).reverse ++ done) rest) later result := by
  induction before generalizing index done deeds with
  | nil => exact ⟨[], deeds, rfl, rfl, by simp, rfl, course⟩
  | cons command others ih =>
    obtain ⟨tail, rfl, attempted⟩ := course_log_iff.mp course
    obtain ⟨first, status, second, rfl, now, next⟩ := bind_course attempted
    obtain ⟨a, rfl, rfl, fits, rfl, rfl⟩ := attempt_course (futures _ List.mem_cons_self) now
    obtain ⟨attempts, later, rfl, indices, rests, rfl, last⟩ :=
      ih (fun command member => futures command (List.mem_cons_of_mem _ member)) next
    refine ⟨a :: attempts, later, rfl, ?_, ?_, ?_, ?_⟩
    · simp [indices, List.range'_succ]
    · intro b member
      rcases List.mem_cons.mp member with rfl | member
      · exact fits
      · exact rests b member
    · simp [Attempt.deeds]
    · simpa [Attempt.report, Nat.add_assoc, Nat.add_comm 1] using last

theorem attempt_from_course {commands : List Command} {done : List CommandReport}
    {result : Ended (List CommandReport)} (futures : GivesFutures registry commands)
    (course : Course (attemptFrom registry index done commands) deeds result) :
    ∃ attempts : List (Attempt H), attempts.map Attempt.command = commands ∧
      attempts.map Attempt.index = List.range' index commands.length ∧
      (∀ a ∈ attempts, a.Fits registry) ∧ deeds = attempts.flatMap Attempt.deeds ∧
      result = .returned (done.reverse ++ attempts.map Attempt.report) := by
  rw [← List.append_nil commands] at course
  obtain ⟨attempts, later, same, indices, fits, rfl, last⟩ :=
    attempt_from_append_course futures course
  obtain ⟨rfl, rfl⟩ := course_done_iff.mp last
  exact ⟨attempts, same, indices, fits, by simp, by simp⟩

theorem dispatch_course {batch : Batch} {result : Ended Report}
    (futures : GivesFutures registry batch.commands)
    (course : Course (dispatch registry batch) deeds result) :
    ∃ attempts : List (Attempt H), attempts.map Attempt.command = batch.commands ∧
      attempts.map Attempt.index = List.range batch.commands.length ∧
      (∀ a ∈ attempts, a.Fits registry) ∧
      deeds = attempts.flatMap Attempt.deeds ++
        [.logged (processedEvent ⟨attempts.map Attempt.report⟩)] ∧
      result = .returned ⟨attempts.map Attempt.report⟩ := by
  obtain ⟨first, reports, second, rfl, attempted, closing⟩ := bind_course course
  obtain ⟨attempts, commands, indices, fits, rfl, rfl⟩ := attempt_from_course futures attempted
  obtain ⟨rest, rfl, last⟩ := course_log_iff.mp closing
  obtain ⟨rfl, rfl⟩ := course_done_iff.mp last
  exact ⟨attempts, commands, by rw [indices, List.range_eq_range'], fits, rfl, rfl⟩

end Attempts

theorem counts_sum (r : Report) :
    r.performed + r.skipped + r.unknown + r.failed = r.commands.length := by
  obtain ⟨commands⟩ := r
  simp only [Report.performed, Report.skipped, Report.unknown, Report.failed]
  induction commands with
  | nil => rfl
  | cons c rest ih =>
    obtain ⟨index, kind, status⟩ := c
    simp only [List.countP_cons, List.length_cons]
    cases status <;> simp <;> omega

theorem status_unknown_iff {registry : Registry H} {a : Attempt H} (fits : a.Fits registry) :
    a.status = .unknownType ↔ handlerOf registry a.command = none := by
  unfold Attempt.Fits at fits
  unfold Attempt.status
  split at fits
  · rename_i handler call known called
    simp only [known, called, reduceCtorEq, iff_false]
    match call.ended with
    | .returned (.ok .performed) => simp [statusOf]
    | .returned (.ok (.skipped reason)) => simp [statusOf]
    | .returned (.error e) => simp [statusOf]
    | .panicked p => simp [statusOf]
  · rename_i missing uncalled
    simp [missing, uncalled]
  · exact fits.elim

theorem fits_called_iff {registry : Registry H} {a : Attempt H} (fits : a.Fits registry) :
    a.call.isSome = (handlerOf registry a.command).isSome := by
  unfold Attempt.Fits at fits
  split at fits
  · rename_i handler call known called
    simp [known, called]
  · rename_i missing uncalled
    simp [missing, uncalled]
  · exact fits.elim

theorem attempt_entry {attempts : List (Attempt H)} {commands : List Command}
    (same : attempts.map Attempt.command = commands)
    (indices : attempts.map Attempt.index = List.range commands.length) {i : Nat}
    {command : Command} (here : commands[i]? = some command) :
    ∃ a, attempts[i]? = some a ∧ a.command = command ∧
      (attempts.map Attempt.report)[i]? = some ⟨i, command.kind, a.status⟩ := by
  have bound := (List.getElem?_eq_some_iff.mp here).1
  have index : (attempts.map Attempt.index)[i]? = some i := by
    rw [indices, List.getElem?_range bound]
  rw [← same, List.getElem?_map, Option.map_eq_some_iff] at here
  obtain ⟨a, found, rfl⟩ := here
  rw [List.getElem?_map, found, Option.map_some, Option.some.injEq] at index
  refine ⟨a, found, rfl, ?_⟩
  rw [List.getElem?_map, found, Option.map_some, Attempt.report, index]

/-- A dispatch made these attempts, one for each command, did nothing besides, and reports them. -/
structure Faithful (registry : Registry H) (batch : Batch) (attempts : List (Attempt H))
    (deeds : List (Deed H)) (report : Report) : Prop where
  commands : attempts.map Attempt.command = batch.commands
  indices : attempts.map Attempt.index = List.range batch.commands.length
  fits : ∀ a ∈ attempts, a.Fits registry
  deeds : deeds = attempts.flatMap Attempt.deeds ++ [.logged (processedEvent report)]
  reports : report.commands = attempts.map Attempt.report
  entry : ∀ (i : Nat) (command : Command), batch.commands[i]? = some command →
    ∃ a : Attempt H, attempts[i]? = some a ∧
      a.command = command ∧ report.commands[i]? = some ⟨i, command.kind, a.status⟩
  unknown : ∀ a ∈ attempts, a.status = .unknownType ↔ handlerOf registry a.command = none
  calls : (attempts.filter (·.call.isSome)).map Attempt.command =
    batch.commands.filter fun command => (handlerOf registry command).isSome
  total : report.performed + report.skipped + report.unknown + report.failed =
    batch.commands.length

theorem dispatch_faithful {registry : Registry H} {batch : Batch} {deeds : List (Deed H)}
    {result : Ended Report} (futures : GivesFutures registry batch.commands)
    (course : Course (dispatch registry batch) deeds result) :
    ∃ attempts report, result = .returned report ∧
      Faithful registry batch attempts deeds report := by
  obtain ⟨attempts, commands, indices, fits, rfl, rfl⟩ := dispatch_course futures course
  refine ⟨attempts, _, rfl, commands, indices, fits, rfl, rfl, ?_, ?_, ?_, ?_⟩
  · exact fun i command => attempt_entry commands indices
  · exact fun a member => status_unknown_iff (fits a member)
  · rw [← commands, List.filter_map]
    congr 1
    apply List.filter_congr
    exact fun a member => fits_called_iff (fits a member)
  · rw [counts_sum, List.length_map, ← commands, List.length_map]

theorem dispatch_reports_every_command {registry : Registry H} {batch : Batch}
    (futures : GivesFutures registry batch.commands) :
    (∀ {deeds result}, Course (dispatch registry batch) deeds result →
      ∃ attempts report, result = .returned report ∧
        Faithful registry batch attempts deeds report) ∧
    ∀ {σ : Type} (a : Accessor σ H), ∃ report, ((dispatch registry batch).run a).1 =
      .returned report := by
  refine ⟨dispatch_faithful futures, fun a => ?_⟩
  obtain ⟨deeds, course⟩ := run_can_end (dispatch registry batch) a
  obtain ⟨attempts, report, same, -⟩ := dispatch_faithful futures course
  exact ⟨report, same⟩

def obedient : Handler Handled := fun _ =>
  .started <| .acquire "" fun
    | .returned (.ok (some ended)) => .done ended
    | .returned (.ok none) => .done (.returned (.ok .performed))
    | .returned (.error e) => .done (.returned (.error (.actuator e)))
    | .panicked p => .done (.panicked p)

theorem obedient_gives_futures (commands : List Command) :
    GivesFutures (Registry.empty.register .saySomething obedient) commands := by
  intro command _ handler known
  unfold handlerOf at known
  split at known
  · rename_i kind _
    cases kind
    obtain rfl : obedient = handler := by simpa [Registry.get?, Registry.register] using known
    exact ⟨_, rfl⟩
  · cases known

def mixed : Batch :=
  ⟨[⟨.known .saySomething, []⟩, ⟨.unknown none, []⟩, ⟨.known .saySomething, []⟩], by simp⟩

def mixedReport : Report :=
  ⟨[⟨0, .known .saySomething, .failed "handler panicked: over"⟩, ⟨1, .unknown none, .unknownType⟩,
    ⟨2, .known .saySomething, .skipped .noArguments⟩]⟩

theorem mixed_can_end :
    (dispatch (Registry.empty.register .saySomething obedient) mixed).canEnd
      (.returned mixedReport) := by
  refine can_end_log (can_end_acquire (.panicked (.text "over")) ?_)
  refine can_end_log (can_end_log (can_end_log (can_end_log ?_)))
  refine can_end_acquire (.returned (.ok (some (.returned (.ok (.skipped .noArguments)))))) ?_
  exact can_end_log ⟨[], .done _⟩

theorem dispatch_reports_mixed_batch : ∃ attempts deeds,
    Faithful (Registry.empty.register .saySomething obedient) mixed attempts deeds mixedReport := by
  obtain ⟨deeds, course⟩ := mixed_can_end
  obtain ⟨attempts, report, same, faithful⟩ :=
    (dispatch_reports_every_command (obedient_gives_futures mixed.commands)).1 course
  cases same
  exact ⟨attempts, deeds, faithful⟩

end CommandGateway
