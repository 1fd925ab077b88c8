import CommandGateway.Proofs.Inline

/- Where one batch ends and the next begins is nothing to the robot. A command leaves only the
   accessor to the one after it, however it ended, and its position is only logged and reported; so
   what a batch comes to is what its commands come to, one by one. -/
namespace CommandGateway

variable {σ H α β : Type}

/-- What work comes to: its result, the calls that it makes, and the accessor that it leaves. -/
def effect (work : Work H α) (a : Accessor σ H) : α × List (Happening H) × Accessor σ H :=
  ((work.run a).1, calls (work.run a).2.1, (work.run a).2.2)

section Effects
variable {a : Accessor σ H}

theorem effect_done (result : α) : effect (.done result) a = (result, [], a) := rfl

theorem effect_log (event : Event) (next : Work H α) :
    effect (.log event next) a = effect next a := by
  simp only [effect, Work.run, Work.runOnto, run_onto_past next [.logged event]]
  simp [calls, Happening.isCall, Happening.event?]

theorem effect_bind (work : Work H α) (f : α → Work H β) :
    effect (work.bind f) a =
      let (result, seen, a) := effect work a
      let (last, later, a) := effect (f result) a
      (last, seen ++ later, a) := by
  simp only [effect, Work.run, run_onto_bind]
  rw [run_onto_past (f (work.runOnto [] a).1), List.reverse_append, calls_append]

end Effects

def Called.work : Called H → Work H Handled
  | .started work => work
  | .panicked p => .done (.panicked p)

def answer (registry : Registry H) (a : Accessor σ H) (command : Command) :
    CommandStatus × List (Happening H) × Accessor σ H :=
  match handlerOf registry command with
  | none => (.unknownType, [], a)
  | some handler =>
    let (ended, seen, a) := effect (handler command.args).work a
    (statusOf ended, seen, a)

def answers (registry : Registry H) (a : Accessor σ H) :
    List Command → List (Command × CommandStatus) × List (Happening H) × Accessor σ H
  | [] => ([], [], a)
  | command :: rest =>
    let (status, seen, a) := answer registry a command
    let (statuses, later, a) := answers registry a rest
    ((command, status) :: statuses, seen ++ later, a)

def reportFrom (index : Nat) : List (Command × CommandStatus) → List CommandReport
  | [] => []
  | (command, status) :: rest => ⟨index, command.kind, status⟩ :: reportFrom (index + 1) rest

section Answers
variable {registry : Registry H} {index : Nat} {a : Accessor σ H} {command : Command}
  {commands : List Command}

theorem settle_effect (kind : CommandType) (ended : Handled) :
    effect (settle index kind ended) a = (.returned (statusOf ended), [], a) := by
  match ended with
  | .returned (.ok .performed) => rfl
  | .returned (.ok (.skipped reason)) => rfl
  | .returned (.error e) => exact effect_log _ _
  | .panicked p => exact effect_log _ _

/-- The position of a command changes what is logged, and nothing else. -/
theorem attempt_effect (futures : GivesFutures registry [command]) :
    effect (attempt registry index command) a =
      (.returned (answer registry a command).1, (answer registry a command).2) := by
  unfold attempt answer
  cases tag : command.kind with
  | unknown name =>
    simp only [handlerOf, tag]
    exact effect_log _ _
  | known kind =>
    simp only [handlerOf, tag]
    cases given : registry.get? kind with
    | none => exact effect_log _ _
    | some handler =>
      obtain ⟨work, started⟩ := futures command List.mem_cons_self handler (by
        simp only [handlerOf, tag, given])
      simp only [started, Called.work, effect_bind, settle_effect, List.append_nil]

/-- By induction on the commands, each of which finds the accessor as the one before has left it. -/
theorem attempt_from_effect {done : List CommandReport} (futures : GivesFutures registry commands) :
    effect (attemptFrom registry index done commands) a =
      (.returned (done.reverse ++ reportFrom index (answers registry a commands).1),
        (answers registry a commands).2) := by
  induction commands generalizing index done a with
  | nil => simp only [attemptFrom, effect_done, answers, reportFrom, List.append_nil]
  | cons command rest ih =>
    have here : GivesFutures registry [command] := fun c member =>
      futures c (List.mem_singleton.mp member ▸ List.mem_cons_self)
    have later : GivesFutures registry rest := fun c member =>
      futures c (List.mem_cons_of_mem _ member)
    simp only [attemptFrom, effect_log, effect_bind, attempt_effect here, ih later, answers,
      reportFrom, List.reverse_cons, List.append_assoc, List.singleton_append]

theorem dispatch_effect {batch : Batch} (futures : GivesFutures registry batch.commands) :
    effect (dispatch registry batch) a =
      (.returned ⟨reportFrom 0 (answers registry a batch.commands).1⟩,
        (answers registry a batch.commands).2) := by
  simp only [dispatch, effect_bind, attempt_from_effect futures, effect_log, effect_done,
    List.reverse_nil, List.nil_append, List.append_nil]

theorem answers_append (first second : List Command) :
    answers registry a (first ++ second) =
      let (statuses, seen, a) := answers registry a first
      let (more, later, a) := answers registry a second
      (statuses ++ more, seen ++ later, a) := by
  induction first generalizing a with
  | nil => rfl
  | cons command rest ih =>
    simp only [List.cons_append, answers, ih, List.append_assoc]

theorem answers_commands : (answers registry a commands).1.map Prod.fst = commands := by
  induction commands generalizing a with
  | nil => rfl
  | cons command rest ih => simp only [answers, List.map_cons, ih]

theorem answers_without (keep : Command → Bool)
    (idle : ∀ command ∈ commands, keep command = false → handlerOf registry command = none) :
    answers registry a (commands.filter keep) =
      ((answers registry a commands).1.filter fun c => keep c.1,
        (answers registry a commands).2) := by
  induction commands generalizing a with
  | nil => rfl
  | cons command rest ih =>
    have later := fun c member => idle c (List.mem_cons_of_mem command member)
    cases kept : keep command with
    | true => simp only [List.filter_cons, kept, if_true, answers, ih later]
    | false =>
      have same : answer registry a command = (.unknownType, [], a) := by
        rw [answer, idle command List.mem_cons_self kept]
      simp only [List.filter_cons, kept, Bool.false_eq_true, if_false, answers, same, ih later,
        List.nil_append]

end Answers

def CommandReport.shift (n : Nat) (c : CommandReport) : CommandReport :=
  { c with index := c.index + n }

def CommandReport.entry (c : CommandReport) : CommandType × CommandStatus := (c.kind, c.status)

def CommandType.isKnown : CommandType → Bool
  | .known _ => true
  | .unknown _ => false

section Reports
variable {index : Nat} {first second answered : List (Command × CommandStatus)}

theorem report_from_append :
    reportFrom index (first ++ second) =
      reportFrom index first ++ reportFrom (index + first.length) second := by
  induction first generalizing index with
  | nil => rfl
  | cons c rest ih =>
    simp only [List.cons_append, reportFrom, ih, List.length_cons, Nat.add_comm rest.length,
      Nat.add_assoc]

theorem report_from_shift (n : Nat) :
    reportFrom (index + n) answered = (reportFrom index answered).map (·.shift n) := by
  induction answered generalizing index with
  | nil => rfl
  | cons c rest ih =>
    have next : index + n + 1 = index + 1 + n := by omega
    simp only [reportFrom, List.map_cons, next, ih, CommandReport.shift]

theorem report_from_filter (keep : CommandType → Bool) (start : Nat) :
    (reportFrom start (answered.filter (keep ·.1.kind))).map CommandReport.entry =
      ((reportFrom index answered).filter (keep ·.kind)).map CommandReport.entry := by
  induction answered generalizing index start with
  | nil => rfl
  | cons c rest ih =>
    cases kept : keep c.1.kind with
    | true =>
      simp only [reportFrom, List.filter_cons, kept, if_true, List.map_cons, CommandReport.entry]
      exact congrArg _ (ih (start + 1))
    | false =>
      simp only [reportFrom, List.filter_cons, kept, Bool.false_eq_true, if_false]
      exact ih start

end Reports

def Batch.append (first second : Batch) : Batch :=
  ⟨first.commands ++ second.commands, by simp [first.nonempty]⟩

def holdsBatch (body : Bytes) : Bool := (Batch.ofBytes body).toOption.isSome

def wasAccepted : Ended DispatchOutcome → Bool
  | .returned (.rejected _) => false
  | _ => true

/-- What it makes no difference to do: to put two batches into one, to leave out the commands of
    unknown type when there are others, and to leave out the bodies that are rejected. -/
structure Seamless (service : String) (a : Accessor σ H) : Prop where
  joined : ∀ first second : Batch,
    let apart := runAll a [dispatch (.standard service) first, dispatch (.standard service) second]
    ∃ report report', apart.1 = [.returned report, .returned report'] ∧
      effect (dispatch (.standard service) (first.append second)) a =
        (.returned ⟨report.commands ++ report'.commands.map (·.shift first.size)⟩,
          calls apart.2.1, apart.2.2)
  unknown : ∀ batch rest : Batch, rest.commands = batch.commands.filter (·.kind.isKnown) →
    ∃ report report' seen last,
      effect (dispatch (.standard service) batch) a = (.returned report, seen, last) ∧
      effect (dispatch (.standard service) rest) a = (.returned report', seen, last) ∧
      report'.commands.map CommandReport.entry =
        (report.commands.filter (·.kind.isKnown)).map CommandReport.entry
  rejected : ∀ bodies : List Bytes,
    let all := runAll a (bodies.map (dispatchPayload (.standard service)))
    let held := runAll a ((bodies.filter holdsBatch).map (dispatchPayload (.standard service)))
    held.1 = all.1.filter wasAccepted ∧ calls held.2.1 = calls all.2.1 ∧ held.2.2 = all.2.2

section Standard
variable {service : String} {a : Accessor σ H}

theorem unknown_unhandled (service : String) {command : Command}
    (unknown : command.kind.isKnown = false) :
    handlerOf (H := H) (.standard service) command = none := by
  cases tag : command.kind with
  | unknown name => simp only [handlerOf, tag]
  | known kind =>
    rw [tag] at unknown
    cases unknown

theorem standard_effect (service : String) (a : Accessor σ H) (batch : Batch) :
    effect (dispatch (.standard service) batch) a =
      (.returned ⟨reportFrom 0 (answers (.standard service) a batch.commands).1⟩,
        (answers (.standard service) a batch.commands).2) :=
  dispatch_effect (standard_gives_futures batch.commands)

theorem joined_effect (service : String) (a : Accessor σ H) (first second : Batch) :
    let apart := runAll a [dispatch (.standard service) first, dispatch (.standard service) second]
    ∃ report report', apart.1 = [.returned report, .returned report'] ∧
      effect (dispatch (.standard service) (first.append second)) a =
        (.returned ⟨report.commands ++ report'.commands.map (·.shift first.size)⟩,
          calls apart.2.1, apart.2.2) := by
  have early := standard_effect service a first
  have late := standard_effect service (answers (.standard service) a first.commands).2.2 second
  have both := standard_effect service a (first.append second)
  have size : (answers (.standard service) a first.commands).1.length = first.size := by
    rw [Batch.size, ← congrArg List.length answers_commands, List.length_map]
  simp only [Batch.append, answers_append, report_from_append, size, report_from_shift] at both
  simp only [effect, Prod.ext_iff] at early late
  obtain ⟨returned, made, left⟩ := early
  obtain ⟨returned', made', left'⟩ := late
  refine ⟨⟨reportFrom 0 (answers (.standard service) a first.commands).1⟩,
    ⟨reportFrom 0 (answers (.standard service)
      (answers (.standard service) a first.commands).2.2 second.commands).1⟩, ?_, ?_⟩
  · simp only [runAll, left, returned, returned']
  · rw [Batch.append, both]
    simp only [runAll, left, left', calls_append, made, made']
    simp [calls]

theorem known_effect {batch rest : Batch}
    (filtered : rest.commands = batch.commands.filter (·.kind.isKnown)) :
    ∃ report report' seen last,
      effect (dispatch (.standard service) batch) a = (.returned report, seen, last) ∧
      effect (dispatch (.standard service) rest) a = (.returned report', seen, last) ∧
      report'.commands.map CommandReport.entry =
        (report.commands.filter (·.kind.isKnown)).map CommandReport.entry := by
  have without := answers_without (a := a) (·.kind.isKnown) fun command
    (_ : command ∈ batch.commands) => unknown_unhandled service
  have left := standard_effect service a rest
  rw [filtered, without] at left
  exact ⟨_, _, _, _, standard_effect service a batch, left, report_from_filter (·.isKnown) 0⟩

theorem rejected_effect (service : String) (a : Accessor σ H) (bodies : List Bytes) :
    let all := runAll a (bodies.map (dispatchPayload (.standard service)))
    let held := runAll a ((bodies.filter holdsBatch).map (dispatchPayload (.standard service)))
    held.1 = all.1.filter wasAccepted ∧ calls held.2.1 = calls all.2.1 ∧ held.2.2 = all.2.2 := by
  -- a body that is rejected leaves the accessor to the next as it was
  induction bodies generalizing a with
  | nil => exact ⟨rfl, rfl, rfl⟩
  | cons body rest ih =>
    cases verdict : Batch.ofBytes body with
    | error e =>
      obtain ⟨results, made, left⟩ := ih a
      have refused : holdsBatch body = false := by
        rw [holdsBatch, verdict]
        rfl
      simp only [List.filter_cons, refused, Bool.false_eq_true, if_false, List.map_cons, runAll,
        rejected_run verdict, wasAccepted]
      refine ⟨results, ?_, left⟩
      rw [calls_append, made]
      rfl
    | ok batch =>
      obtain ⟨report, returned⟩ := standard_returns service a batch
      obtain ⟨results, made, left⟩ := ih ((dispatch (.standard service) batch).run a).2.2
      have held : holdsBatch body = true := by
        rw [holdsBatch, verdict]
        rfl
      simp only [List.filter_cons, held, if_true, List.map_cons, runAll,
        accepted_run verdict returned, wasAccepted, calls_append]
      exact ⟨congrArg _ results, congrArg _ made, left⟩

/-- Whatever the robot answers, errors and panics included, and in every state of the accessor. -/
theorem batch_boundaries_do_not_matter (service : String) (a : Accessor σ H) :
    Seamless service a where
  joined := joined_effect service a
  unknown _ _ := known_effect
  rejected := rejected_effect service a

end Standard
end CommandGateway
