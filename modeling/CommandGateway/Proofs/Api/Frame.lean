import CommandGateway.Proofs.Api.Reach
import CommandGateway.Proofs.Inline

/- What a request leaves alone. Unless it brings a batch for which there is a place, neither the
   robot nor the queue can tell that it was there, and its answer tells exactly whether it did. -/
namespace CommandGateway.Api

open Pool Engine

variable {σ H : Type}

structure Untouched (before after : Engine σ H) : Prop where
  queue : after.pool.queue = before.pool.queue
  tracker : after.pool.tracker = before.pool.tracker
  accessor : after.scene.accessor = before.scene.accessor
  inFlight : after.scene.inFlight = before.scene.inFlight
  calls : calls after.scene.past = calls before.scene.past

structure Added (job : Job) (before after : Pool) : Prop where
  queue : after.queue = before.queue ++ [job]
  unknown : before.tracker.get? job.id = none
  queued : after.tracker.get? job.id = some .queued
  others : ∀ id, id ≠ job.id → after.tracker.get? id = before.tracker.get? id

def HasRoom (p : Pool) : Prop := p.accepting = true ∧ p.queue.length < p.capacity

/-- The request brings a batch, and a gateway that queues has a place for it. -/
structure Brings (g : Gateway σ H) (r : Request) : Prop where
  posts : Posts g.config r
  small : r.body.length ≤ 2097152
  holds : ∃ batch, Batch.ofBytes r.body = .ok batch
  place : g.config.mode = .async → HasRoom g.rota.engine.pool

section Queue
variable {p q : Pool} {id : Uuid} {batch : Batch} {result : Except ExecutorError Unit}

theorem submitted_added (called : Submitted p id batch result q)
    (unknown : p.tracker.get? id = none) (admitted : result = .ok ()) : Added ⟨id, batch⟩ p q := by
  cases called with
  | admitted accepting room =>
    exact ⟨rfl, unknown, (get_set_pending rfl).trans (if_pos rfl),
      fun other apart => (get_set_pending rfl).trans (if_neg apart)⟩
  | _ => cases admitted

theorem submitted_refusal (called : Submitted p id batch result q) (refused : ¬ HasRoom p) :
    result = .error (if p.accepting then .queueFull else .closed) ∧ q.queue = p.queue ∧
      q.tracker = p.tracker := by
  cases called with
  | closed shut => simp [shut, calling]
  | full accepting full => simp [accepting, calling]
  | admitted accepting room => exact absurd ⟨accepting, room⟩ refused

theorem submitted_admission (called : Submitted p id batch result q) (room : HasRoom p) :
    result = .ok () := by
  obtain ⟨accepting, room⟩ := room
  cases called with
  | closed shut => simp [shut] at accepting
  | full _ full => exact absurd room full
  | admitted => rfl

theorem none_added (same : q.queue = p.queue) : ¬ ∃ job, Added job p q := by
  rintro ⟨job, added⟩
  have longer := congrArg List.length (added.queue.symm.trans same)
  simp at longer

end Queue

section Refusals
variable {e : BatchError} {registry : Registry H} {body : Bytes} {n : Nat}

/-- Where the errand of a refused body can be. -/
inductive Refusing (e : BatchError) : Stage H (Ended DispatchOutcome) → Prop
  | telling : Refusing e (.ready (.log (rejectedEvent e) (.done (.returned (.rejected e)))))
  | ending : Refusing e (.ready (.done (.returned (.rejected e))))
  | closed : Refusing e (.finished (.returned (.rejected e)))

theorem start_refusing (refused : Batch.ofBytes body = .error e) :
    Refusing e (.ready (dispatchPayload registry body)) := by
  simp only [dispatchPayload, refused]
  exact .telling

section Steps
variable {owner : Owner} {s s' : Scene σ H} {step : Step}
  {stage stage' : Stage H (Ended DispatchOutcome)}

theorem refusing_stepped (stepped : Stepped owner s step stage stage' s')
    (refusing : Refusing e stage) :
    Refusing e stage' ∧ (s' = s ∨ s' = s.enter owner [.logged (rejectedEvent e)]) := by
  cases refusing with
  | telling =>
    cases stepped
    exact ⟨.ending, Or.inr rfl⟩
  | ending =>
    cases stepped
    exact ⟨.closed, Or.inl rfl⟩
  | closed => cases stepped

theorem refusing_untouched {eng eng' : Engine σ H} (serves : Serves n (Refusing e) eng)
    (move : eng.move? (.step (.request n) step) = some eng') : Untouched eng eng' := by
  obtain ⟨stage, found, refusing⟩ := serves
  cases move_moved move with
  | step owner step errand new scene here stepped =>
    obtain rfl : .payload n stage = errand := Option.some.inj (found.symm.trans here)
    obtain ⟨stage', -, taken⟩ := payload_step stepped
    obtain ⟨-, rfl | rfl⟩ := refusing_stepped taken refusing
    · exact ⟨rfl, rfl, rfl, rfl, rfl⟩
    · exact ⟨rfl, rfl, rfl, rfl, by rw [past_enter, calls_append]; rfl⟩

end Steps

theorem errand_advances {work : Work H (Ended DispatchOutcome)} {eng : Engine σ H}
    (found : errandOf (.request n) eng.errands = some (.payload n (.ready work))) :
    ∃ eng', eng.move? (.step (.request n) .advance) = some eng' ∧
      errandOf (.request n) eng'.errands =
        some (.payload n (advance (.request n) eng.scene work).1) := by
  have before : errandOf (Errand.payload n (advance (.request n) eng.scene work).1).owner
      eng.errands = some (.payload n (.ready work)) := found
  refine ⟨{ eng with
    scene := (advance (.request n) eng.scene work).2
    errands := replaceErrand (.payload n (advance (.request n) eng.scene work).1) eng.errands },
    ?_, errand_of_replace_own before⟩
  simp only [move?, Engine.step?, found, Errand.step?, Stage.step?, Option.map_some, Errand.owner]

theorem refusing_ends {eng : Engine σ H} (serves : Serves n (Refusing e) eng) :
    ∃ steps : List Step, steps.length ≤ 2 ∧
      ∃ eng', eng.run? (steps.map (.step (.request n))) = some eng' ∧
        errandOf (.request n) eng'.errands =
          some (.payload n (.finished (.returned (.rejected e)))) := by
  obtain ⟨stage, found, refusing⟩ := serves
  cases refusing with
  | telling =>
    obtain ⟨mid, first, found⟩ := errand_advances found
    obtain ⟨last, second, found⟩ := errand_advances found
    exact ⟨[.advance, .advance], Nat.le_refl 2, last, by simp [Engine.run?, first, second], found⟩
  | ending =>
    obtain ⟨last, first, found⟩ := errand_advances found
    exact ⟨[.advance], by simp, last, by simp [Engine.run?, first], found⟩
  | closed => exact ⟨[], by simp, eng, rfl, found⟩

end Refusals

section Answers
variable {registry : Registry H} {body : Bytes} {result : Ended DispatchOutcome}

theorem payload_can_end (ends : (dispatchPayload registry body).canEnd result) :
    (∃ e, Batch.ofBytes body = .error e ∧ result = .returned (.rejected e)) ∨
    ∃ batch, Batch.ofBytes body = .ok batch ∧
      ((∃ report, (dispatch registry batch).canEnd (.returned report) ∧
          result = .returned (.accepted report)) ∨
        ∃ p, (dispatch registry batch).canEnd (.panicked p) ∧ result = .panicked p) := by
  obtain ⟨deeds, course⟩ := ends
  cases held : Batch.ofBytes body with
  | error e =>
    simp only [dispatchPayload, held] at course
    obtain ⟨rest, -, last⟩ := course_log_iff.mp course
    exact Or.inl ⟨e, rfl, (course_done_iff.mp last).2⟩
  | ok batch =>
    simp only [dispatchPayload, held] at course
    obtain ⟨first, ended, second, -, dispatched, last⟩ := bind_course course
    refine Or.inr ⟨batch, rfl, ?_⟩
    cases ended with
    | returned report => exact Or.inl ⟨report, ⟨first, dispatched⟩, (course_done_iff.mp last).2⟩
    | panicked p => exact Or.inr ⟨p, ⟨first, dispatched⟩, (course_done_iff.mp last).2⟩

theorem payload_ends (ends : (dispatchPayload registry body).canEnd result) :
    (∃ e, result = .returned (.rejected e)) ↔ ∃ e, Batch.ofBytes body = .error e := by
  rcases payload_can_end ends with ⟨e, refused, rfl⟩ | ⟨batch, held, taken⟩
  · exact ⟨fun _ => ⟨e, refused⟩, fun _ => ⟨e, rfl⟩⟩
  · refine iff_of_false ?_ (by simp [held])
    rcases taken with ⟨report, -, rfl⟩ | ⟨p, -, rfl⟩ <;> simp

theorem answer_end_rejected :
    (answerEnd result).status = 400 ∧ (answerEnd result).body = "" ↔
      ∃ e, result = .returned (.rejected e) := by
  constructor
  · rintro ⟨status, -⟩
    cases result with
    | panicked p => cases status
    | returned outcome =>
      cases outcome with
      | accepted report => cases status
      | rejected e => exact ⟨e, rfl⟩
  · rintro ⟨e, rfl⟩
    exact ⟨rfl, rfl⟩

inductive Answers (g : Gateway σ H) (fresh : Uuid) (r : Request) : Answer → Prop
  | once (answer : Answer) (g' : Gateway σ H) (handled : g.handle fresh r = .answered answer g') :
      Answers g fresh r answer
  | late (n : Nat) (g' later : Gateway σ H) (used : List Uuid) (answer : Answer)
      (handled : g.handle fresh r = .waiting n g') (reached : Reaches g' used later)
      (told : later.answer? n = some answer) : Answers g fresh r answer

/-- A request gets an answer of this kind at once, or after so many steps of its errand and nothing
    else. -/
inductive Promises (steps : Nat) (P : Answer → Prop) : Handling σ H → Prop
  | once (answer : Answer) (g : Gateway σ H) (holds : P answer) :
      Promises steps P (.answered answer g)
  | soon (n : Nat) (g : Gateway σ H)
      (comes : ∀ used later, Reaches g used later → ∃ own : List Step, own.length ≤ steps ∧
        ∃ (rota : Rota σ H) (answer : Answer),
          later.rota.engine.run? (own.map (.step (.request n))) = some rota.engine ∧
          { later with rota := rota }.answer? n = some answer ∧ P answer) :
      Promises steps P (.waiting n g)

end Answers

/-- What a request does, and what it is answered. -/
structure Framed (g : Gateway σ H) (fresh : Uuid) (r : Request) : Prop where
  untouched : ¬ Brings g r → Untouched g.rota.engine (g.handle fresh r).gateway.rota.engine
  after : ¬ Brings g r → ∀ n g' since later step e, g.handle fresh r = .waiting n g' →
    Reaches g' since later → later.rota.engine.move? (.step (.request n) step) = some e →
    Untouched later.rota.engine e
  rejected : Posts g.config r → r.body.length ≤ 2097152 → ∀ answer, Answers g fresh r answer →
    (answer.status = 400 ∧ answer.body = "" ↔ ∃ e, Batch.ofBytes r.body = .error e)
  answered : Posts g.config r → r.body.length ≤ 2097152 → ∀ e, Batch.ofBytes r.body = .error e →
    Promises 2 (fun answer => answer.status = 400 ∧ answer.body = "") (g.handle fresh r)
  unavailable : Posts g.config r → r.body.length ≤ 2097152 → g.config.mode = .async →
    ∀ batch, Batch.ofBytes r.body = .ok batch → ¬ HasRoom g.rota.engine.pool →
    ∃ answer g', g.handle fresh r = .answered answer g' ∧ answer.status = 503 ∧
      answer.body = if g.rota.engine.pool.accepting
        then "\x7b\"message\":\"the command queue is full\"\x7d"
        else "\x7b\"message\":\"the command executor has shut down\"\x7d"
  accepted : g.config.mode = .async → ∃ answer g', g.handle fresh r = .answered answer g' ∧
    (answer.status = 202 ↔ Brings g r) ∧
    (answer.status = 202 ↔ ∃ job, Added job g.rota.engine.pool g'.rota.engine.pool)

section Requests
variable {first g : Gateway σ H} {used : List Uuid} {fresh : Uuid} {r : Request}

theorem queue_answer_rejected {c : Config} {result : Except ExecutorError Unit} :
    (queueAnswer c fresh result).status ≠ 400 := by
  cases result <;> exact nofun

theorem waits_serves (sound : g.config.mode = .sync → Inline g.rota.engine) {n : Nat}
    {g' : Gateway σ H} (handled : g.handle fresh r = .waiting n g') :
    (Posts g.config r ∧ r.body.length ≤ bodyLimit ∧ g.config.mode = .sync) ∧
      errandOf (.request n) g'.rota.engine.errands =
        some (.payload n (.ready (dispatchPayload g.rota.engine.registry r.body))) := by
  have cases := handle_cases g fresh r
  rw [handled] at cases
  cases cases with
  | inline posts small mode =>
    have free := inline_free (sound mode)
    refine ⟨⟨posts, small, mode⟩, ?_⟩
    rw [request_engine _ _ free]
    exact errand_of_new (.payload g.rota.engine.errands.length _) free

theorem refused_untouched (sound : Sound used g.rota.engine.pool) (new : fresh ∉ used)
    (inline : g.config.mode = .sync → Inline g.rota.engine) (idle : ¬ Brings g r) :
    Untouched g.rota.engine (g.handle fresh r).gateway.rota.engine := by
  have cases := handle_cases g fresh r
  generalize g.handle fresh r = handling at cases
  cases cases with
  | elsewhere | large | rejected => exact ⟨rfl, rfl, rfl, rfl, rfl⟩
  | inline posts small mode =>
    rw [Handling.gateway, request_engine _ _ (inline_free (inline mode))]
    exact ⟨rfl, rfl, rfl, rfl, rfl⟩
  | queued posts small mode batch held =>
    have full : ¬ HasRoom g.rota.engine.pool :=
      fun room => idle ⟨posts, small, ⟨batch, held⟩, fun _ => room⟩
    have called := submit_submitted (r := g.rota) batch sound new
    obtain ⟨-, queue, tracker⟩ := submitted_refusal called full
    have engine := (submit_engine (r := g.rota) fresh batch).1
    refine ⟨queue, tracker, ?_, ?_, ?_⟩ <;> simp only [Handling.gateway, engine]

theorem waits_refused (idle : ¬ Brings g r)
    (waits : Posts g.config r ∧ r.body.length ≤ bodyLimit ∧ g.config.mode = .sync) :
    ∃ e, Batch.ofBytes r.body = .error e := by
  obtain ⟨posts, small, mode⟩ := waits
  cases held : Batch.ofBytes r.body with
  | error e => exact ⟨e, rfl⟩
  | ok batch =>
    have place : g.config.mode = .async → HasRoom g.rota.engine.pool := by simp [mode]
    exact absurd ⟨posts, small, ⟨batch, held⟩, place⟩ idle

theorem waited_end (inline : g.config.mode = .sync → Inline g.rota.engine) {n : Nat}
    {g' later : Gateway σ H} {since : List Uuid} {answer : Answer}
    (handled : g.handle fresh r = .waiting n g') (reached : Reaches g' since later)
    (told : later.answer? n = some answer) :
    ∃ result, (dispatchPayload g.rota.engine.registry r.body).canEnd result ∧
      answer = answerEnd result := by
  obtain ⟨-, started⟩ := waits_serves inline handled
  -- a step of the errand only narrows what it can still end with
  have serves := reached_serves (P := fun stage => ∀ a, stage.canEnd a →
      (dispatchPayload g.rota.engine.registry r.body).canEnd a) reached
    (fun stepped before a ⟨rest, ahead⟩ => before a ⟨_, stepped_ahead stepped ahead⟩)
    ⟨_, started, fun _ ends => ends⟩
  obtain ⟨stage, found, ends⟩ := serves
  simp only [Gateway.answer?, found] at told
  cases stage with
  | finished result => exact ⟨result, ends result ⟨[], rfl, rfl⟩, (Option.some.inj told).symm⟩
  | _ => cases told

theorem answers_rejected (inline : g.config.mode = .sync → Inline g.rota.engine)
    (posts : Posts g.config r) (small : r.body.length ≤ bodyLimit) {answer : Answer}
    (answers : Answers g fresh r answer) :
    answer.status = 400 ∧ answer.body = "" ↔ ∃ e, Batch.ofBytes r.body = .error e := by
  cases answers with
  | once _ g' handled =>
    have cases := handle_cases g fresh r
    rw [handled] at cases
    cases cases with
    | elsewhere _ away _ => exact absurd posts away
    | large _ large => exact absurd small (Nat.not_le_of_lt large)
    | rejected _ _ _ e refused => exact ⟨fun _ => ⟨e, refused⟩, fun _ => ⟨rfl, rfl⟩⟩
    | queued _ _ _ batch held =>
      constructor
      · exact fun refused => absurd refused.1 queue_answer_rejected
      · rintro ⟨e, refused⟩
        cases held.symm.trans refused
  | late n g' later used _ handled reached told =>
    obtain ⟨result, ends, rfl⟩ := waited_end inline handled reached told
    exact answer_end_rejected.trans (payload_ends ends)

/-- Whatever happens after a refused body has come in, its errand gets nowhere else. -/
theorem refusal_lasts (inline : g.config.mode = .sync → Inline g.rota.engine) {n : Nat}
    {g' later : Gateway σ H} {since : List Uuid} {e : BatchError}
    (handled : g.handle fresh r = .waiting n g') (refused : Batch.ofBytes r.body = .error e)
    (reached : Reaches g' since later) : Serves n (Refusing e) later.rota.engine :=
  reached_serves reached (fun stepped refusing => (refusing_stepped stepped refusing).1)
    ⟨_, (waits_serves inline handled).2, start_refusing refused⟩

theorem refused_promises (inline : g.config.mode = .sync → Inline g.rota.engine)
    (posts : Posts g.config r) (small : r.body.length ≤ bodyLimit) {e : BatchError}
    (refused : Batch.ofBytes r.body = .error e) :
    Promises 2 (fun answer => answer.status = 400 ∧ answer.body = "") (g.handle fresh r) := by
  cases mode : g.config.mode with
  | async =>
    rw [handle_rejected fresh posts small mode refused]
    exact .once _ g ⟨rfl, rfl⟩
  | sync =>
    have handled := handle_inline fresh posts small mode
    rw [handled]
    refine .soon _ _ fun since later reached => ?_
    obtain ⟨steps, few, eng, run, found⟩ :=
      refusing_ends (refusal_lasts inline handled refused reached)
    refine ⟨steps, few, { later.rota with engine := eng }, emptyAnswer 400, run, ?_, rfl, rfl⟩
    simp only [Gateway.answer?, found]
    rfl

theorem full_unavailable (sound : Sound used g.rota.engine.pool) (new : fresh ∉ used)
    (posts : Posts g.config r) (small : r.body.length ≤ bodyLimit) (mode : g.config.mode = .async)
    {batch : Batch} (held : Batch.ofBytes r.body = .ok batch)
    (full : ¬ HasRoom g.rota.engine.pool) :
    ∃ answer g', g.handle fresh r = .answered answer g' ∧ answer.status = 503 ∧
      answer.body = if g.rota.engine.pool.accepting
        then "\x7b\"message\":\"the command queue is full\"\x7d"
        else "\x7b\"message\":\"the command executor has shut down\"\x7d" := by
  have called := submit_submitted (r := g.rota) batch sound new
  rw [handle_queued fresh posts small mode held, (submitted_refusal called full).1]
  refine ⟨_, _, rfl, rfl, ?_⟩
  cases g.rota.engine.pool.accepting <;> rfl

theorem accepted_added (sound : Sound used g.rota.engine.pool) (new : fresh ∉ used)
    (mode : g.config.mode = .async) :
    ∃ answer g', g.handle fresh r = .answered answer g' ∧ (answer.status = 202 ↔ Brings g r) ∧
      (answer.status = 202 ↔ ∃ job, Added job g.rota.engine.pool g'.rota.engine.pool) := by
  have cases := handle_cases g fresh r
  generalize g.handle fresh r = handling at cases
  cases cases with
  | elsewhere answer away other =>
    have idle : ¬ Brings g r := fun brings => away brings.posts
    exact ⟨_, _, rfl, iff_of_false other idle, iff_of_false other (none_added rfl)⟩
  | large _ large =>
    have other : tooLarge.status ≠ 202 := nofun
    have idle : ¬ Brings g r := fun brings => Nat.not_le_of_lt large brings.small
    exact ⟨_, _, rfl, iff_of_false other idle, iff_of_false other (none_added rfl)⟩
  | rejected _ _ _ e refused =>
    have other : (emptyAnswer 400).status ≠ 202 := nofun
    have idle : ¬ Brings g r := by
      rintro ⟨-, -, ⟨batch, held⟩, -⟩
      cases held.symm.trans refused
    exact ⟨_, _, rfl, iff_of_false other idle, iff_of_false other (none_added rfl)⟩
  | inline _ _ sync => cases mode.symm.trans sync
  | queued posts small _ batch held =>
    -- only here does the queue decide, and it takes the batch just when it has room
    have called := submit_submitted (r := g.rota) batch sound new
    refine ⟨_, _, rfl, ?_⟩
    by_cases room : HasRoom g.rota.engine.pool
    · have admitted := submitted_admission called room
      have taken : (queueAnswer g.config fresh (g.rota.submit fresh batch).1).status = 202 := by
        rw [admitted]
        rfl
      have added := submitted_added called (new_unknown sound new) admitted
      exact ⟨iff_of_true taken ⟨posts, small, ⟨batch, held⟩, fun _ => room⟩,
        iff_of_true taken ⟨_, added⟩⟩
    · obtain ⟨refused, queue, -⟩ := submitted_refusal called room
      have other : (queueAnswer g.config fresh (g.rota.submit fresh batch).1).status ≠ 202 := by
        rw [refused]
        exact nofun
      exact ⟨iff_of_false other fun brings => room (brings.place mode),
        iff_of_false other (none_added queue)⟩

theorem request_frame (new : first.IsNew) (reached : Reaches first used g) (unused : fresh ∉ used) :
    Framed g fresh r := by
  obtain ⟨sound, inline⟩ := reached_sound new reached
  constructor
  case untouched => exact refused_untouched sound unused inline
  case after =>
    intro idle n g' since later step e handled reached move
    obtain ⟨error, refused⟩ := waits_refused idle (waits_serves inline handled).1
    exact refusing_untouched (refusal_lasts inline handled refused reached) move
  case rejected => exact fun posts small answer => answers_rejected inline posts small
  case answered => exact fun posts small e => refused_promises inline posts small
  case unavailable =>
    exact fun posts small mode batch held => full_unavailable sound unused posts small mode held
  case accepted => exact accepted_added sound unused

end Requests

def oneSeat : Gateway Unit Unit :=
  .standard { Config.default with capacity := 1 } (.offline ()) ⟨true, []⟩

def posted : Request :=
  ⟨"POST", "/api/commands?from=here", Text.utf8 "\x7b\"commands\":[\x7b\"type\":\"wave\"\x7d]\x7d"⟩

def seatTaken : Gateway Unit Unit := (oneSeat.handle (Uuid.ofNat 1) posted).gateway

def garbled : Request := ⟨"POST", "/api/commands", Text.utf8 "\x7b"⟩

/-- A full queue refuses a batch, and what is no batch is refused before the queue is asked. -/
theorem full_queue_frame :
    (∃ answer g', seatTaken.handle (Uuid.ofNat 2) posted = .answered answer g' ∧
      answer.status = 503 ∧ answer.body = "\x7b\"message\":\"the command queue is full\"\x7d" ∧
      Framed seatTaken (Uuid.ofNat 2) posted ∧
      Untouched seatTaken.rota.engine g'.rota.engine) ∧
    ∃ answer g', seatTaken.handle (Uuid.ofNat 2) garbled = .answered answer g' ∧
      answer.status = 400 ∧ answer.body = "" ∧ Framed seatTaken (Uuid.ofNat 2) garbled := by
  have framed (r : Request) : Framed seatTaken (Uuid.ofNat 2) r :=
    request_frame (start_is_new ..) (.asked .here (Uuid.ofNat 1) nofun posted) (by decide)
  have full : ¬ seatTaken.rota.engine.pool.queue.length < seatTaken.rota.engine.pool.capacity := by
    decide
  exact ⟨⟨_, _, rfl, rfl, rfl, framed posted,
    (framed posted).untouched fun brings => full (brings.place rfl).2⟩,
    _, _, rfl, rfl, rfl, framed garbled⟩

end CommandGateway.Api
