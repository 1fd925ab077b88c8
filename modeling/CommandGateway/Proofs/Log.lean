import CommandGateway.Proofs.Inline
import CommandGateway.Robot.Bridge
import CommandGateway.Robot.Recording
import CommandGateway.Robot.Scripted

/- The log next to the reports. Each command is announced with its position, and then logged at the
   level that its status calls for, once; each batch is summed up at its end, and a body that is
   rejected leaves one line. Acquiring a handle only adds asides, which are none of these. -/
namespace CommandGateway

open Json

variable {σ H α : Type}

def logged (seen : List (Happening H)) : List Event := seen.filterMap Happening.event?

def Event.isWarning (e : Event) : Bool := e.level = .warn

def Event.isError (e : Event) : Bool := e.level = .error

def summary : String := "Batch processed"

structure Aside (e : Event) : Prop where
  mild : e.level ≠ .warn ∧ e.level ≠ .error
  placeless : lookup "index" e.fields = none
  other : e.message ≠ summary

/-- Lookups that log asides only, however they end. Every connector of this library makes such; one
    from elsewhere writes to a log of its own. -/
def Connector.Discreet (c : Connector σ H) : Prop :=
  ∀ service robot, ∀ e ∈ (c.lookup service robot).1.2, Aside e

/-- Lines of the log that deeds leave, in order. Any asides may stand where a handle is acquired. -/
inductive Logs : List (Deed H) → List Event → Prop
  | nil : Logs [] []
  | logged (e : Event) {deeds : List (Deed H)} {events : List Event} (rest : Logs deeds events) :
      Logs (.logged e :: deeds) (e :: events)
  | acquired (service : String) (reply : Reply (Option H)) (asides : List Event)
      (discreet : ∀ e ∈ asides, Aside e) {deeds : List (Deed H)} {events : List Event}
      (rest : Logs deeds events) : Logs (.acquired service reply :: deeds) (asides ++ events)
  | spoke (handle : H) (text : String) (reply : Reply Unit) {deeds : List (Deed H)}
      {events : List Event} (rest : Logs deeds events) :
      Logs (.spoke handle text reply :: deeds) events

section Connectors

theorem recorder_discreet (lookupFailure speechFailure : Option ActuatorError) :
    (Robot.recorder lookupFailure speechFailure).Discreet := by
  intro service robot e member
  cases member

theorem scripted_discreet (script : Robot.Script) : (Robot.scripted script).Discreet := by
  intro service robot e member
  cases member

theorem bridged_discreet (network : Robot.Network σ) (b : Robot.Bridge) :
    (Robot.bridged network b).Discreet := by
  intro service robot e member
  obtain rfl : e = Robot.placeEvent (b.place service) := by
    simpa [Robot.bridged] using member
  exact ⟨by simp [Robot.placeEvent], rfl, by simp [Robot.placeEvent, summary]⟩

end Connectors

def Accessor.Discreet (a : Accessor σ H) : Prop := ∀ c, a.connector = some c → c.Discreet

section Runs
variable {a : Accessor σ H} {service : String}

theorem logged_append (first second : List (Happening H)) :
    logged (first ++ second) = logged first ++ logged second := List.filterMap_append

theorem acquire_asides (discreet : a.Discreet) :
    ∀ e ∈ logged (a.acquire service).2.1, Aside e := by
  unfold Accessor.acquire
  split
  · intro e member
    obtain rfl : e = offlineEvent service := by simpa [logged, Happening.event?] using member
    exact ⟨by simp [offlineEvent], rfl, by simp [offlineEvent, summary]⟩
  · rename_i connector online
    split
    · simp [logged]
    · intro e member
      have here : e = lookupEvent service ∨ e ∈ (connector.lookup service a.robot).1.2 := by
        simpa [Accessor.lookUp, logged, Happening.event?, List.filterMap_map, Function.comp_def]
          using member
      rcases here with rfl | own
      · exact ⟨by simp [lookupEvent], rfl, by simp [lookupEvent, summary]⟩
      · exact discreet connector online service a.robot e own

theorem acquire_discreet (discreet : a.Discreet) : (a.acquire service).2.2.Discreet := by
  unfold Accessor.acquire
  split
  · exact discreet
  · split
    · exact discreet
    · simp only [Accessor.lookUp, Accessor.keep]
      split <;> exact discreet

theorem speak_quiet (handle : H) (text : String) :
    logged (a.speak handle text).2.1 = [] := by
  unfold Accessor.speak
  split <;> rfl

theorem speak_discreet (discreet : a.Discreet) (handle : H) (text : String) :
    (a.speak handle text).2.2.Discreet := by
  unfold Accessor.speak
  split <;> exact discreet

theorem run_logs (work : Work H α) (discreet : a.Discreet) :
    ∃ deeds, Course work deeds (work.run a).1 ∧ Logs deeds (logged (work.run a).2.1) ∧
      (work.run a).2.2.Discreet := by
  induction work generalizing a with
  | done result => exact ⟨[], .done result, .nil, discreet⟩
  | log event next ih =>
    obtain ⟨deeds, course, logs, kept⟩ := ih discreet
    rw [run_log]
    exact ⟨_, .log event course, .logged event logs, kept⟩
  | acquire service next ih =>
    obtain ⟨deeds, course, logs, kept⟩ := ih (a.acquire service).1 (acquire_discreet discreet)
    rw [run_acquire]
    refine ⟨_, .acquire service (a.acquire service).1 course, ?_, kept⟩
    rw [logged_append]
    exact .acquired service _ _ (acquire_asides discreet) logs
  | speak handle text next ih =>
    obtain ⟨deeds, course, logs, kept⟩ :=
      ih (a.speak handle text).1 (speak_discreet discreet handle text)
    rw [run_speak]
    refine ⟨_, .speak handle text (a.speak handle text).1 course, ?_, kept⟩
    rw [logged_append, speak_quiet, List.nil_append]
    exact .spoke handle text _ logs

end Runs

def Deed.event? : Deed H → Option Event
  | .logged event => some event
  | _ => none

def lines (deeds : List (Deed H)) : List Event := deeds.filterMap Deed.event?

section Logged
variable {deeds first second : List (Deed H)} {events : List Event}

theorem logs_append (logs : Logs (first ++ second) events) :
    ∃ early late, events = early ++ late ∧ Logs first early ∧ Logs second late := by
  induction first generalizing events with
  | nil => exact ⟨[], events, rfl, .nil, logs⟩
  | cons deed first ih =>
    cases logs with
    | logged e rest =>
      obtain ⟨early, late, rfl, own, others⟩ := ih rest
      exact ⟨_, late, rfl, .logged e own, others⟩
    | acquired service reply asides discreet rest =>
      obtain ⟨early, late, rfl, own, others⟩ := ih rest
      exact ⟨_, late, (List.append_assoc ..).symm, .acquired service reply asides discreet own,
        others⟩
    | spoke handle text reply rest =>
      obtain ⟨early, late, rfl, own, others⟩ := ih rest
      exact ⟨_, late, rfl, .spoke handle text reply own, others⟩

theorem logs_count {p : Event → Bool} (aside : ∀ e, Aside e → p e = false)
    (logs : Logs deeds events) : events.countP p = (lines deeds).countP p := by
  induction logs with
  | nil => rfl
  | logged e rest ih =>
    rename_i deeds events
    have next : lines (.logged e :: deeds) = e :: lines deeds := rfl
    rw [next, List.countP_cons, List.countP_cons, ih]
  | acquired service reply asides discreet rest ih =>
    have none : asides.countP p = 0 := List.countP_eq_zero.mpr fun e member => by
      simp [aside e (discreet e member)]
    rw [List.countP_append, none, Nat.zero_add, ih]
    rfl
  | spoke handle text reply rest ih => exact ih

theorem mem_logs {e : Event} (logs : Logs deeds events) (member : e ∈ events) :
    Aside e ∨ e ∈ lines deeds := by
  induction logs with
  | nil => cases member
  | logged e' rest ih =>
    rcases List.mem_cons.mp member with rfl | later
    · exact .inr List.mem_cons_self
    · exact (ih later).imp_right (List.mem_cons_of_mem _)
  | acquired service reply asides discreet rest ih =>
    rcases List.mem_append.mp member with own | later
    · exact .inl (discreet e own)
    · exact ih later
  | spoke handle text reply rest ih => exact ih member

end Logged

def CommandStatus.warnings : CommandStatus → Nat
  | .performed => 0
  | .skipped _ => 1
  | .unknownType => 1
  | .failed _ => 0

def CommandStatus.errors : CommandStatus → Nat
  | .performed => 0
  | .skipped _ => 0
  | .unknownType => 0
  | .failed _ => 1

def Event.announces (e : Event) : Bool := e.level = .debug && (lookup "index" e.fields).isSome

/-- The log of one command: the line that announces it, and then what goes with its status. -/
structure Tells (c : CommandReport) (events : List Event) : Prop where
  first : ∃ opening rest, events = opening :: rest ∧ opening.level = .debug ∧
    lookup "index" opening.fields = some (toString c.index) ∧
    ∀ e ∈ rest, e.announces = false
  warnings : events.countP Event.isWarning = c.status.warnings
  errors : events.countP Event.isError = c.status.errors
  unsummed : ∀ e ∈ events, e.message ≠ summary

section Commands
variable {a : Attempt H} {service : String} {events : List Event}

theorem aside_mild {e : Event} (aside : Aside e) : e.isWarning = false ∧ e.isError = false := by
  simpa [Event.isWarning, Event.isError] using aside.mild

theorem aside_unannounced {e : Event} (aside : Aside e) : e.announces = false := by
  simp [Event.announces, aside.placeless]

structure Fitting (status : CommandStatus) (lines : List Event) : Prop where
  unannounced : ∀ e ∈ lines, e.announces = false
  warnings : lines.countP Event.isWarning = status.warnings
  errors : lines.countP Event.isError = status.errors
  unsummed : ∀ e ∈ lines, e.message ≠ summary

theorem fitting_tells (logs : Logs a.deeds events) (fitting : Fitting a.status (lines a.body)) :
    Tells a.report events := by
  cases logs with
  | logged e rest =>
    constructor
    case first =>
      refine ⟨_, _, rfl, rfl, rfl, fun e member => ?_⟩
      rcases mem_logs rest member with aside | line
      · exact aside_unannounced aside
      · exact fitting.unannounced e line
    case warnings =>
      rw [List.countP_cons, logs_count (fun e aside => (aside_mild aside).1) rest,
        fitting.warnings]
      rfl
    case errors =>
      rw [List.countP_cons, logs_count (fun e aside => (aside_mild aside).2) rest,
        fitting.errors]
      rfl
    case unsummed =>
      refine List.forall_mem_cons.mpr ⟨by simp [processingEvent, summary], fun e member => ?_⟩
      rcases mem_logs rest member with aside | line
      · exact aside.other
      · exact fitting.unsummed e line

theorem warning_fitting {e : Event} {status : CommandStatus} (warning : e.level = .warn)
    (other : e.message ≠ summary) (warned : status.warnings = 1) (fine : status.errors = 0) :
    Fitting status [e] := by
  constructor <;>
    simp [Event.announces, Event.isWarning, Event.isError, warning, other, warned, fine]

theorem error_fitting {e : Event} (error : e.level = .error) (other : e.message ≠ summary)
    (text : String) : Fitting (.failed text) [e] := by
  constructor <;> simp [Event.announces, Event.isWarning, Event.isError, error, other,
    CommandStatus.warnings, CommandStatus.errors]

theorem performed_fitting : Fitting .performed [] := by
  constructor <;> simp [CommandStatus.warnings, CommandStatus.errors]

theorem aside_fitting {e : Event} {status : CommandStatus} {events : List Event} (aside : Aside e)
    (fitting : Fitting status events) : Fitting status (e :: events) where
  unannounced := List.forall_mem_cons.mpr ⟨aside_unannounced aside, fitting.unannounced⟩
  warnings := by rw [List.countP_cons, (aside_mild aside).1, fitting.warnings]; rfl
  errors := by rw [List.countP_cons, (aside_mild aside).2, fitting.errors]; rfl
  unsummed := List.forall_mem_cons.mpr ⟨aside.other, fitting.unsummed⟩

theorem saying_aside (text : String) : Aside (sayingEvent text) :=
  ⟨by simp [sayingEvent], rfl, by simp [sayingEvent, summary]⟩

theorem uncalled_fitting (uncalled : a.call = none) : Fitting a.status (lines a.body) := by
  have status : a.status = .unknownType := by simp [Attempt.status, uncalled]
  have own : lines a.body = [a.missingEvent] := by
    simp [lines, Attempt.body, uncalled, Deed.event?]
  rw [status, own]
  unfold Attempt.missingEvent
  split
  · exact warning_fitting rfl (by simp [noHandlerEvent, summary]) rfl rfl
  · exact warning_fitting rfl (by simp [unknownTypeEvent, summary]) rfl rfl

theorem called_lines {call : HandlerCall H} (called : a.call = some call) :
    lines a.body = lines call.deeds ++ settleEvents a.index a.command.kind call.ended := by
  simp [lines, Attempt.body, called, List.filterMap_map, Function.comp_def, Deed.event?]

theorem spoken_fitting (index : Nat) (kind : CommandType) (reply : Reply Unit) :
    Fitting (statusOf (spokenEnd reply)) (settleEvents index kind (spokenEnd reply)) := by
  match reply with
  | .returned (.ok ()) => exact performed_fitting
  | .returned (.error e) => exact error_fitting rfl (by simp [failedEvent, summary]) _
  | .panicked p => exact error_fitting rfl (by simp [panickedEvent, summary]) _

/-- By the cases of what saying can come to: what it skips it has warned of itself, and what fails
    is left to the dispatcher. -/
theorem said_fitting {deeds : List (Deed H)} {ended : Handled}
    (called : a.call = some ⟨deeds, ended⟩) (said : Said service a.command.args deeds ended) :
    Fitting a.status (lines a.body) := by
  have status : a.status = statusOf ended := by simp [Attempt.status, called]
  rw [status, called_lines called]
  cases said with
  | unavailable | unresolved e =>
    exact warning_fitting rfl (by simp [unavailableEvent, summary]) rfl rfl
  | broken p => exact error_fitting rfl (by simp [panickedEvent, summary]) _
  | noArguments handle none =>
    exact warning_fitting rfl (by simp [noArgumentsEvent, summary]) rfl rfl
  | noText handle some blank =>
    exact warning_fitting rfl (by simp [noTextEvent, summary]) rfl rfl
  | spoken handle reply some audible =>
    exact aside_fitting (saying_aside _) (spoken_fitting _ _ reply)

theorem standard_tells (fits : a.Fits (.standard service)) (logs : Logs a.deeds events) :
    Tells a.report events := by
  refine fitting_tells logs ?_
  unfold Attempt.Fits at fits
  split at fits
  · rename_i handler call known called
    obtain ⟨rfl, -⟩ := standard_handler known
    obtain ⟨work, started, course⟩ := fits
    exact said_fitting called (say_course started course)
  · rename_i missing uncalled
    exact uncalled_fitting uncalled
  · exact fits.elim

end Commands

/-- The log of a batch: a stretch for each command reported, and a line that sums them up. -/
structure Sums (batch : Batch) (report : Report) (events : List Event) : Prop where
  entries : report.commands.map CommandReport.index = List.range batch.size ∧
    report.commands.map CommandReport.kind = batch.commands.map Command.kind
  stretches : ∃ stretches last, events = stretches.flatten ++ [last] ∧
    List.Forall₂ Tells report.commands stretches ∧ last.level = .info ∧ last.message = summary ∧
    last.fields = [("performed", toString report.performed), ("skipped", toString report.skipped),
      ("unknown", toString report.unknown), ("failed", toString report.failed)]
  once : events.countP (·.message = summary) = 1
  warnings : events.countP Event.isWarning = report.skipped + report.unknown
  errors : events.countP Event.isError = report.failed

section Batches
variable {service : String} {commands : List CommandReport} {stretches : List (List Event)}

theorem stretches_warnings (each : List.Forall₂ Tells commands stretches) :
    stretches.flatten.countP Event.isWarning =
      (⟨commands⟩ : Report).skipped + (⟨commands⟩ : Report).unknown := by
  simp only [Report.skipped, Report.unknown]
  induction each with
  | nil => rfl
  | @cons c own commands others tells rest ih =>
    rw [List.flatten_cons, List.countP_append, tells.warnings, ih]
    cases status : c.status <;> simp [status, CommandStatus.warnings] <;> omega

theorem stretches_errors (each : List.Forall₂ Tells commands stretches) :
    stretches.flatten.countP Event.isError = (⟨commands⟩ : Report).failed := by
  simp only [Report.failed]
  induction each with
  | nil => rfl
  | @cons c own commands others tells rest ih =>
    rw [List.flatten_cons, List.countP_append, tells.errors, ih]
    cases status : c.status <;> simp [status, CommandStatus.errors, Nat.add_comm]

theorem stretches_unsummed (each : List.Forall₂ Tells commands stretches) :
    ∀ e ∈ stretches.flatten, e.message ≠ summary := by
  induction each with
  | nil => simp
  | cons tells rest ih =>
    rw [List.flatten_cons, List.forall_mem_append]
    exact ⟨tells.unsummed, ih⟩

theorem attempts_tell {attempts : List (Attempt H)} {events : List Event}
    (fits : ∀ a ∈ attempts, a.Fits (.standard service))
    (logs : Logs (attempts.flatMap Attempt.deeds) events) :
    ∃ stretches, events = stretches.flatten ∧
      List.Forall₂ Tells (attempts.map Attempt.report) stretches := by
  -- each attempt leaves a stretch of its own, and the others find the rest of the log
  induction attempts generalizing events with
  | nil =>
    cases logs
    exact ⟨[], rfl, .nil⟩
  | cons a rest ih =>
    obtain ⟨fit, others⟩ := List.forall_mem_cons.mp fits
    obtain ⟨own, late, rfl, here, later⟩ := logs_append logs
    obtain ⟨stretches, rfl, each⟩ := ih others later
    exact ⟨own :: stretches, rfl, .cons (standard_tells fit here) each⟩

theorem faithful_sums {batch : Batch} {attempts : List (Attempt H)} {deeds : List (Deed H)}
    {report : Report} {events : List Event}
    (faithful : Faithful (.standard service) batch attempts deeds report)
    (logs : Logs deeds events) : Sums batch report events := by
  rw [faithful.deeds] at logs
  obtain ⟨early, late, rfl, own, last⟩ := logs_append logs
  obtain ⟨stretches, rfl, tells⟩ := attempts_tell faithful.fits own
  rw [← faithful.reports] at tells
  obtain rfl : late = [processedEvent report] := by
    cases last with
    | logged e rest =>
      cases rest
      rfl
  have unsummed := stretches_unsummed tells
  constructor
  case entries =>
    rw [faithful.reports, List.map_map, List.map_map, ← faithful.commands, List.map_map]
    exact ⟨faithful.indices, rfl⟩
  case stretches => exact ⟨stretches, _, rfl, tells, rfl, rfl, rfl⟩
  case once =>
    rw [List.countP_append, List.countP_eq_zero.mpr fun e member => by simp [unsummed e member]]
    rfl
  case warnings =>
    rw [List.countP_append, stretches_warnings tells]
    rfl
  case errors =>
    rw [List.countP_append, stretches_errors tells]
    rfl

end Batches

inductive Told (body : Bytes) : Ended DispatchOutcome → List Event → Prop
  | rejected (e : BatchError) (event : Event) (refused : Batch.ofBytes body = .error e)
      (debug : event.level = .debug) : Told body (.returned (.rejected e)) [event]
  | accepted (batch : Batch) (report : Report) (events : List Event)
      (held : Batch.ofBytes body = .ok batch) (sums : Sums batch report events) :
      Told body (.returned (.accepted report)) events

inductive Recounts : List Bytes → List (Ended DispatchOutcome) → List Event → Prop
  | nil : Recounts [] [] []
  | cons {body : Bytes} {outcome : Ended DispatchOutcome} {own : List Event}
      (told : Told body outcome own) {bodies : List Bytes} {outcomes : List (Ended DispatchOutcome)}
      {events : List Event} (rest : Recounts bodies outcomes events) :
      Recounts (body :: bodies) (outcome :: outcomes) (own ++ events)

section Bodies
variable {a : Accessor σ H} {body : Bytes}

theorem body_told (service : String) (discreet : a.Discreet) :
    Told body ((dispatchPayload (.standard service) body).run a).1
      (logged ((dispatchPayload (.standard service) body).run a).2.1) := by
  cases verdict : Batch.ofBytes body with
  | error e =>
    rw [rejected_run verdict]
    exact .rejected e _ verdict rfl
  | ok batch =>
    obtain ⟨deeds, course, logs, -⟩ := run_logs (dispatch (.standard service) batch) discreet
    obtain ⟨attempts, report, returned, faithful⟩ :=
      dispatch_faithful (standard_gives_futures batch.commands) course
    rw [accepted_run verdict returned]
    exact .accepted batch report _ verdict (faithful_sums faithful logs)

/-- The log goes with the reports, whatever the robot does and however often it fails: by induction
    on the bodies, each of which finds lookups as discreet as the one before. -/
theorem log_tells_reports (service : String) (discreet : a.Discreet) (bodies : List Bytes) :
    let ran := runAll a (bodies.map (dispatchPayload (.standard service)))
    Recounts bodies ran.1 (logged ran.2.1) := by
  induction bodies generalizing a with
  | nil => exact .nil
  | cons body bodies ih =>
    obtain ⟨-, -, -, kept⟩ := run_logs (dispatchPayload (.standard service) body) discreet
    simp only [List.map_cons, runAll, logged_append]
    exact .cons (body_told service discreet) (ih kept)

end Bodies

def shaky : Accessor Robot.Scripted Nat :=
  .online (Robot.scripted ⟨[], [.fails (.remote "tts" "busy"), .panics .other]⟩) .fresh

def fiveCommands : List Bytes :=
  [Text.utf8 "[]",
    Text.utf8 ("\x7b\"commands\":[\x7b\"type\":\"say_something\",\"args\":[\"one\"]\x7d," ++
      "\x7b\"type\":\"wave\"\x7d,\x7b\"type\":\"say_something\"\x7d," ++
      "\x7b\"type\":\"say_something\",\"args\":[\"two\"]\x7d," ++
      "\x7b\"type\":\"say_something\",\"args\":[null]\x7d]\x7d")]

theorem log_tells_five_commands :
    let ran := runAll shaky (fiveCommands.map (dispatchPayload (.standard "tts")))
    shaky.Discreet ∧ Recounts fiveCommands ran.1 (logged ran.2.1) ∧
      (logged ran.2.1).countP Event.isWarning = 3 ∧ (logged ran.2.1).countP Event.isError = 2 := by
  have discreet : shaky.Discreet := by
    rintro c ⟨⟩
    exact scripted_discreet _
  exact ⟨discreet, log_tells_reports "tts" discreet fiveCommands, by decide +kernel⟩

end CommandGateway
