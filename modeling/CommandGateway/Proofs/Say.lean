import CommandGateway.Proofs.Dispatch

/- What saying comes to. The service is acquired before the arguments are looked at; then a text
   that is not blank is spoken once, joined from the arguments, and nothing else is ever spoken. -/
namespace CommandGateway

variable {H : Type}

structure Speech (H : Type) where
  handle : H
  text : String
  reply : Reply Unit
  deriving DecidableEq

def Deed.speech? : Deed H → Option (Speech H)
  | .spoke handle text reply => some ⟨handle, text, reply⟩
  | _ => none

def Deed.handle? : Deed H → Option H
  | .acquired _ (.returned (.ok handle)) => handle
  | _ => none

def speeches (deeds : List (Deed H)) : List (Speech H) := deeds.filterMap Deed.speech?

@[simp] theorem speeches_append (first second : List (Deed H)) :
    speeches (first ++ second) = speeches first ++ speeches second := List.filterMap_append

@[simp] theorem speeches_logged (events : List Event) :
    speeches (events.map (.logged (H := H))) = [] := by
  simp [speeches, Deed.speech?, List.filterMap_map, Function.comp_def]

def spokenEnd : Reply Unit → Handled
  | .returned (.ok ()) => .returned (.ok .performed)
  | .returned (.error e) => .returned (.error (.actuator e))
  | .panicked p => .panicked p

/-- Everything that saying can come to. -/
inductive Said (service : String) (args : List Json.Value) : List (Deed H) → Handled → Prop
  | unavailable :
      Said service args
        [.acquired service (.returned (.ok none)), .logged (unavailableEvent service none)]
        (.returned (.ok (.skipped .actuatorUnavailable)))
  | unresolved (e : ActuatorError) :
      Said service args
        [.acquired service (.returned (.error e)), .logged (unavailableEvent service (some e))]
        (.returned (.ok (.skipped .actuatorUnresolved)))
  | broken (p : Panic) : Said service args [.acquired service (.panicked p)] (.panicked p)
  | noArguments (handle : H) (none : args = []) :
      Said service args
        [.acquired service (.returned (.ok (some handle))), .logged noArgumentsEvent]
        (.returned (.ok (.skipped .noArguments)))
  | noText (handle : H) (some : args ≠ []) (blank : Text.isBlankText (joinArgs args) = true) :
      Said service args
        [.acquired service (.returned (.ok (.some handle))), .logged noTextEvent]
        (.returned (.ok (.skipped .noValidText)))
  | spoken (handle : H) (reply : Reply Unit) (some : args ≠ [])
      (audible : Text.isBlankText (joinArgs args) = false) :
      Said service args
        [.acquired service (.returned (.ok (.some handle))), .logged (sayingEvent (joinArgs args)),
          .spoke handle (joinArgs args) reply]
        (spokenEnd reply)

section Courses
variable {service : String} {args : List Json.Value} {deeds : List (Deed H)} {ended : Handled}

theorem skip_course {event : Event} {reason : SkipReason}
    (course : Course (skip event reason) deeds ended) :
    deeds = [.logged event] ∧ ended = .returned (.ok (.skipped reason)) := by
  obtain ⟨rest, rfl, last⟩ := course_log_iff.mp course
  obtain ⟨rfl, rfl⟩ := course_done_iff.mp last
  exact ⟨rfl, rfl⟩

theorem say_through_course {handle : H} (course : Course (sayThrough handle args) deeds ended) :
    Said service args (.acquired service (.returned (.ok (some handle))) :: deeds) ended := by
  unfold sayThrough at course
  split at course
  · rename_i none
    obtain ⟨rfl, rfl⟩ := skip_course course
    exact .noArguments handle (List.isEmpty_iff.mp none)
  · rename_i some
    have some : args ≠ [] := by simpa using some
    simp only at course
    split at course
    · rename_i blank
      obtain ⟨rfl, rfl⟩ := skip_course course
      exact .noText handle some blank
    · rename_i audible
      obtain ⟨rest, rfl, spoken⟩ := course_log_iff.mp course
      cases spoken with
      | speak _ _ reply last =>
        have said : Said service args
            [.acquired service (.returned (.ok (.some handle))),
              .logged (sayingEvent (joinArgs args)), .spoke handle (joinArgs args) reply]
            (spokenEnd reply) := .spoken handle reply some (by simpa using audible)
        match reply with
        | .returned (.ok ()) =>
          obtain ⟨rfl, rfl⟩ := course_done_iff.mp last
          exact said
        | .returned (.error e) =>
          obtain ⟨rfl, rfl⟩ := course_done_iff.mp last
          exact said
        | .panicked p =>
          obtain ⟨rfl, rfl⟩ := course_done_iff.mp last
          exact said

theorem say_course {work : Work H Handled} (started : say service args = .started work)
    (course : Course work deeds ended) : Said service args deeds ended := by
  cases started
  cases course with
  | acquire _ reply rest =>
    match reply with
    | .returned (.ok (some handle)) => exact say_through_course rest
    | .returned (.ok none) =>
      obtain ⟨rfl, rfl⟩ := skip_course rest
      exact .unavailable
    | .returned (.error e) =>
      obtain ⟨rfl, rfl⟩ := skip_course rest
      exact .unresolved e
    | .panicked p =>
      obtain ⟨rfl, rfl⟩ := course_done_iff.mp rest
      exact .broken p

end Courses

section Standard
variable {service : String} {command : Command} {handler : Handler H}

theorem standard_handler (known : handlerOf (.standard service) command = some handler) :
    handler = say service ∧ command.kind = .known .saySomething := by
  unfold handlerOf at known
  split at known
  · rename_i kind tag
    cases kind
    have same : say service = handler := by
      simpa [Registry.standard, Registry.get?, Registry.register] using known
    exact ⟨same.symm, tag⟩
  · cases known

theorem standard_gives_futures (commands : List Command) :
    GivesFutures (H := H) (.standard service) commands := by
  intro command _ handler known
  obtain ⟨rfl, -⟩ := standard_handler known
  exact ⟨_, rfl⟩

end Standard

namespace Attempt

def handle? (a : Attempt H) : Option H :=
  match a.call with
  | some call => call.deeds.findSome? Deed.handle?
  | none => none

def speaks (a : Attempt H) : Bool :=
  a.handle?.isSome && !Text.isBlankText (joinArgs a.command.args)

/-- What the robot is asked to say for one command, and what the report tells of it. -/
structure Accounted (a : Attempt H) : Prop where
  spoken : (speeches a.deeds).map Speech.text =
    if a.speaks then [joinArgs a.command.args] else []
  through : ∀ speech ∈ speeches a.deeds, a.handle? = some speech.handle
  kind : a.speaks → a.command.kind = .known .saySomething
  performed : a.status = .performed ↔ ∃ handle,
    speeches a.deeds = [⟨handle, joinArgs a.command.args, .returned (.ok ())⟩]
  failed : ∀ error, a.status = .failed error → (speeches a.deeds).length ≤ 1
  skipped : ∀ reason, a.status = .skipped reason → speeches a.deeds = []
  unknown : a.status = .unknownType → speeches a.deeds = []

end Attempt

section Accounts
variable {service : String} {a : Attempt H}

theorem speeches_of_call {call : HandlerCall H} (called : a.call = some call) :
    speeches a.deeds = speeches call.deeds := by
  have parts : a.deeds = .logged (processingEvent a.index a.command) ::
      (call.deeds ++ (settleEvents a.index a.command.kind call.ended).map .logged) := by
    simp [Attempt.deeds, Attempt.body, called]
  rw [parts, speeches, List.filterMap_cons]
  change speeches (call.deeds ++ _) = _
  simp

theorem silent_accounted (silent : speeches a.deeds = []) (mute : a.speaks = false)
    (idle : a.status ≠ .performed) : a.Accounted := by
  constructor <;> simp [silent, mute, idle]

theorem spoken_accounted {handle : H} {reply : Reply Unit} (given : a.handle? = some handle)
    (kind : a.command.kind = .known .saySomething)
    (audible : Text.isBlankText (joinArgs a.command.args) = false)
    (once : speeches a.deeds = [⟨handle, joinArgs a.command.args, reply⟩])
    (status : a.status = statusOf (spokenEnd reply)) : a.Accounted := by
  have speaks : a.speaks = true := by simp [Attempt.speaks, given, audible]
  match reply with
  | .returned (.ok ()) | .returned (.error e) | .panicked p =>
    constructor <;> simp [once, speaks, given, kind, status, statusOf, spokenEnd]

theorem uncalled_accounted (uncalled : a.call = none) : a.Accounted := by
  apply silent_accounted
  · simp [speeches, Attempt.deeds, Attempt.body, uncalled, Deed.speech?]
  · simp [Attempt.speaks, Attempt.handle?, uncalled]
  · simp [Attempt.status, uncalled]

theorem said_accounted {deeds : List (Deed H)} {ended : Handled}
    (called : a.call = some ⟨deeds, ended⟩) (kind : a.command.kind = .known .saySomething)
    (said : Said service a.command.args deeds ended) : a.Accounted := by
  have same : speeches a.deeds = speeches deeds := speeches_of_call called
  have given : a.handle? = deeds.findSome? Deed.handle? := by simp [Attempt.handle?, called]
  have status : a.status = statusOf ended := by simp [Attempt.status, called]
  cases said with
  | unavailable | unresolved e | broken p =>
    exact silent_accounted same (by simp [Attempt.speaks, given, Deed.handle?])
      (by simp [status, statusOf])
  | noArguments handle none =>
    refine silent_accounted same ?_ (by simp [status, statusOf])
    have blank : Text.isBlankText (joinArgs []) = true := by decide
    simp [Attempt.speaks, none, blank]
  | noText handle some blank =>
    exact silent_accounted same (by simp [Attempt.speaks, blank]) (by simp [status, statusOf])
  | spoken handle reply some audible => exact spoken_accounted given kind audible same status

theorem standard_accounted (fits : a.Fits (.standard service)) : a.Accounted := by
  unfold Attempt.Fits at fits
  split at fits
  · rename_i handler call known called
    obtain ⟨rfl, kind⟩ := standard_handler known
    obtain ⟨work, started, course⟩ := fits
    exact said_accounted called kind (say_course started course)
  · rename_i missing uncalled
    exact uncalled_accounted uncalled
  · exact fits.elim

theorem attempts_spoken {attempts : List (Attempt H)}
    (accounted : ∀ a ∈ attempts, a.Accounted) :
    (speeches (attempts.flatMap Attempt.deeds)).map Speech.text =
      (attempts.filter Attempt.speaks).map fun a => joinArgs a.command.args := by
  induction attempts with
  | nil => rfl
  | cons a rest ih =>
    have first := (accounted a List.mem_cons_self).spoken
    have later := ih fun b member => accounted b (List.mem_cons_of_mem _ member)
    rw [List.flatMap_cons, speeches_append, List.map_append, first, later]
    cases speaks : a.speaks <;> simp [speaks]

end Accounts
end CommandGateway
