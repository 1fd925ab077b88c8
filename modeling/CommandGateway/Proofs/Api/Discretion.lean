import CommandGateway.Proofs.Api.Frame
import CommandGateway.Robot.Scripted

/- Answers to posted batches tell nothing of robots. Two gateways of one configuration answer a body
   alike, whatever robots they have and whatever has happened to them, as long as their queues would
   both take a batch or refuse it for the same reason. -/
namespace CommandGateway.Api

open Json Pool Engine

variable {σ H : Type}

def receipt (taken : Answer) (body : Bytes) : Answer :=
  if bodyLimit < body.length then tooLarge
  else
    match Batch.ofBytes body with
    | .error _ => emptyAnswer 400
    | .ok _ => taken

def admission (p : Pool) : Except ExecutorError Unit :=
  if p.accepting then
    if p.queue.length < p.capacity then .ok () else .error .queueFull
  else .error .closed

def postAnswer (c : Config) (admission : Except ExecutorError Unit) (fresh : Uuid) (body : Bytes) :
    Answer :=
  match c.mode with
  | .sync => receipt (emptyAnswer 200) body
  | .async => receipt (queueAnswer c fresh admission) body

/-- The status and the body with which a posted body is answered, in each case there is. -/
structure Replied (c : Config) (p : Pool) (fresh : Uuid) (body : Bytes) (answer : Answer) :
    Prop where
  large : 2097152 < body.length → answer.status = 413 ∧
    answer.body = "Failed to buffer the request body: length limit exceeded"
  rejected : body.length ≤ 2097152 → ∀ e, Batch.ofBytes body = .error e →
    answer.status = 400 ∧ answer.body = ""
  dispatched : body.length ≤ 2097152 → ∀ batch, Batch.ofBytes body = .ok batch →
    c.mode = .sync → answer.status = 200 ∧ answer.body = ""
  queued : body.length ≤ 2097152 → ∀ batch, Batch.ofBytes body = .ok batch →
    c.mode = .async → HasRoom p → answer.status = 202 ∧ answer.body = "" ∧
      ("location", c.commandsPath ++ "/" ++ fresh.text) ∈ answer.headers
  full : body.length ≤ 2097152 → ∀ batch, Batch.ofBytes body = .ok batch →
    c.mode = .async → p.accepting = true → p.capacity ≤ p.queue.length →
    answer.status = 503 ∧ answer.body = "\x7b\"message\":\"the command queue is full\"\x7d"
  closed : body.length ≤ 2097152 → ∀ batch, Batch.ofBytes body = .ok batch →
    c.mode = .async → p.accepting = false → answer.status = 503 ∧
      answer.body = "\x7b\"message\":\"the command executor has shut down\"\x7d"

section Receipts
variable {taken : Answer} {body : Bytes}

theorem receipt_large (large : bodyLimit < body.length) : receipt taken body = tooLarge :=
  if_pos large

theorem receipt_rejected (small : body.length ≤ bodyLimit) {e : BatchError}
    (refused : Batch.ofBytes body = .error e) : receipt taken body = emptyAnswer 400 := by
  rw [receipt, if_neg (Nat.not_lt_of_le small), refused]

theorem receipt_taken (small : body.length ≤ bodyLimit) {batch : Batch}
    (held : Batch.ofBytes body = .ok batch) : receipt taken body = taken := by
  rw [receipt, if_neg (Nat.not_lt_of_le small), held]

theorem post_answer_sync {c : Config} (mode : c.mode = .sync) (room : Except ExecutorError Unit)
    (fresh : Uuid) : postAnswer c room fresh body = receipt (emptyAnswer 200) body := by
  rw [postAnswer, mode]

theorem post_answer_async {c : Config} (mode : c.mode = .async) (room : Except ExecutorError Unit)
    (fresh : Uuid) : postAnswer c room fresh body = receipt (queueAnswer c fresh room) body := by
  rw [postAnswer, mode]

theorem post_replied (c : Config) (p : Pool) (fresh : Uuid) (body : Bytes) :
    Replied c p fresh body (postAnswer c (admission p) fresh body) := by
  constructor
  case large =>
    intro large
    cases mode : c.mode <;> simp only [postAnswer, mode, receipt_large large] <;> exact ⟨rfl, rfl⟩
  case rejected =>
    intro small e refused
    cases mode : c.mode <;> simp only [postAnswer, mode, receipt_rejected small refused] <;>
      exact ⟨rfl, rfl⟩
  case dispatched =>
    intro small batch held mode
    rw [post_answer_sync mode, receipt_taken small held]
    exact ⟨rfl, rfl⟩
  all_goals intro small batch held mode
  all_goals rw [post_answer_async mode, receipt_taken small held, admission]
  case queued =>
    rintro ⟨accepting, room⟩
    rw [if_pos accepting, if_pos room]
    exact ⟨rfl, rfl, by simp [queueAnswer, answerOf, locationOf]⟩
  case full =>
    intro accepting full
    rw [if_pos accepting, if_neg (Nat.not_lt_of_le full)]
    exact ⟨rfl, rfl⟩
  case closed =>
    intro shut
    rw [if_neg (by simp [shut])]
    exact ⟨rfl, rfl⟩

end Receipts

section Robots
variable {service : String} {body : Bytes} {result : Ended DispatchOutcome}

theorem standard_end_answer (small : body.length ≤ bodyLimit)
    (ends : (dispatchPayload (H := H) (.standard service) body).canEnd result) :
    answerEnd result = receipt (emptyAnswer 200) body := by
  rcases payload_can_end ends with ⟨e, refused, rfl⟩ | ⟨batch, held, taken⟩
  · exact (receipt_rejected small refused).symm
  · rw [receipt_taken small held]
    rcases taken with ⟨report, -, rfl⟩ | ⟨p, ⟨deeds, course⟩, -⟩
    · rfl
    · obtain ⟨attempts, report, returned, -⟩ :=
        dispatch_faithful (standard_gives_futures batch.commands) course
      cases returned

end Robots

section Settings
variable {first g : Gateway σ H} {used : List Uuid} {fresh : Uuid} {r : Request}

theorem moved_registry {e e' : Engine σ H} {m : Move} (moved : Moved e m e') :
    e'.registry = e.registry := by
  cases moved <;> rfl

theorem played_registry (r : Rota σ H) (m : Move) :
    (r.play m).engine.registry = r.engine.registry := by
  rw [Rota.play]
  cases played : r.engine.move? m with
  | none => rfl
  | some e => exact moved_registry (move_moved played)

theorem handle_registry :
    (g.handle fresh r).gateway.rota.engine.registry = g.rota.engine.registry := by
  have cases := handle_cases g fresh r
  generalize g.handle fresh r = handling at cases
  cases cases with
  | elsewhere | large | rejected => rfl
  | inline =>
    simp only [Handling.gateway, Rota.request, wake_engine, Rota.allow]
    exact played_registry ..
  | queued _ _ _ batch held => rw [Handling.gateway, (submit_engine fresh batch).1]

theorem reached_settings (reached : Reaches first used g) :
    g.config = first.config ∧ g.rota.engine.registry = first.rota.engine.registry := by
  induction reached with
  | here => exact ⟨rfl, rfl⟩
  | asked reached fresh new r ih => exact ⟨handle_config.trans ih.1, handle_registry.trans ih.2⟩
  | moved reached m queued new rota move ih =>
    exact ⟨ih.1, (moved_registry (move_moved move)).trans ih.2⟩

/-- A gateway of this configuration with the handlers it comes with. Of its robot and of its past
    no more is known than which ids it has given. -/
inductive Runs (c : Config) (used : List Uuid) (g : Gateway σ H) : Prop
  | since (first : Gateway σ H) (new : first.IsNew) (config : first.config = c)
      (handlers : first.rota.engine.registry = .standard c.service)
      (reached : Reaches first used g)

theorem start_runs (c : Config) (accessor : Accessor σ H) (gate : Gate) :
    Runs c [] (.standard c accessor gate) :=
  .since _ (start_is_new ..) rfl rfl .here

end Settings

section Answers
variable {c : Config} {g : Gateway σ H} {used : List Uuid} {fresh : Uuid} {r : Request}
  {answer : Answer}

theorem submitted_result {p q : Pool} {batch : Batch} {result : Except ExecutorError Unit}
    (called : Submitted p fresh batch result q) : result = admission p := by
  cases called with
  | closed shut => simp [admission, shut]
  | full accepting full => simp [admission, accepting, full]
  | admitted accepting room => simp [admission, accepting, room]

theorem posted_answer (runs : Runs c used g) (unused : fresh ∉ used) (posts : Posts c r)
    (answers : Answers g fresh r answer) :
    answer = postAnswer c (admission g.rota.engine.pool) fresh r.body := by
  obtain ⟨first, new, config, handlers, reached⟩ := runs
  obtain ⟨sound, inline⟩ := reached_sound new reached
  obtain ⟨same, registry⟩ := reached_settings reached
  obtain rfl : g.config = c := same.trans config
  cases answers with
  | once _ g' handled =>
    have cases := handle_cases g fresh r
    rw [handled] at cases
    cases cases with
    | elsewhere _ away _ => exact absurd posts away
    | large _ large =>
      rw [postAnswer]
      split <;> exact (receipt_large large).symm
    | rejected _ small mode e refused =>
      rw [post_answer_async mode, receipt_rejected small refused]
    | queued _ small mode batch held =>
      have called := submit_submitted (r := g.rota) batch sound unused
      rw [post_answer_async mode, receipt_taken small held, submitted_result called]
  | late n g' later since _ handled reached told =>
    obtain ⟨-, small, mode⟩ := (waits_serves inline handled).1
    obtain ⟨result, ends, rfl⟩ := waited_end inline handled reached told
    rw [registry.trans handlers] at ends
    rw [post_answer_sync mode, standard_end_answer small ends]

end Answers

section Steps
variable {g g' : Gateway σ H} {fresh : Uuid} {r : Request} {n : Nat} {answer : Answer}

def Gateway.withEngine (g : Gateway σ H) (e : Engine σ H) : Gateway σ H :=
  { g with rota := { g.rota with engine := e } }

/-- Moves that bring nothing new can be made one after the other whatever the rota has in mind. -/
theorem moves_reach {moves : List Move} {first : Gateway σ H} {used : List Uuid} {e : Engine σ H}
    (reached : Reaches first used g)
    (own : ∀ m ∈ moves, m.isQueued = true ∧ issued (poolActions [m]) = [])
    (run : g.rota.engine.run? moves = some e) : Reaches first used (g.withEngine e) := by
  induction moves generalizing g with
  | nil =>
    cases run
    exact reached
  | cons m rest ih =>
    obtain ⟨⟨queued, nothing⟩, own⟩ := List.forall_mem_cons.mp own
    simp only [Engine.run?] at run
    split at run
    · rename_i mid move
      have next : Reaches first (issued (poolActions [m]) ++ used) (g.withEngine mid) :=
        .moved reached m queued (by simp [nothing]) _ move
      rw [nothing, List.nil_append] at next
      exact ih (g := g.withEngine mid) next own run
    · cases run

theorem answered_alone (steps : List Step) (handled : g.handle fresh r = .waiting n g')
    (told : ((g'.rota.engine.run? (steps.map (.step (.request n)))).bind fun e =>
      (g'.withEngine e).answer? n) = some answer) : Answers g fresh r answer := by
  obtain ⟨e, run, told⟩ := Option.bind_eq_some_iff.mp told
  have own : ∀ m ∈ steps.map (Move.step (.request n)),
      m.isQueued = true ∧ issued (poolActions [m]) = [] :=
    List.forall_mem_map.mpr fun _ _ => ⟨rfl, rfl⟩
  exact .late n g' _ _ answer handled (moves_reach .here own run) told

end Steps

section Pairs
variable {σ' H' : Type} {c : Config} {g : Gateway σ H} {g' : Gateway σ' H'}
  {used used' : List Uuid} {fresh fresh' : Uuid} {r r' : Request} {answer answer' : Answer}

def relocated (location other : String) (h : Header) : Header :=
  if h = ("location", location) then ("location", other) else h

/-- Answers that differ in nothing but the id at the end of a location. -/
structure Alike (c : Config) (id id' : Uuid) (answer answer' : Answer) : Prop where
  status : answer'.status = answer.status
  headers : answer'.headers = answer.headers.map
    (relocated (locationOf c.commandsPath id) (locationOf c.commandsPath id'))
  body : answer'.body = answer.body

theorem fixed_alike (status : Nat) (name value : String) (body : String)
    (apart : name ≠ "location") :
    Alike c fresh fresh' (answerOf status [(name, value)] body)
      (answerOf status [(name, value)] body) :=
  ⟨rfl, by simp [answerOf, openHeaders, exposed, relocated, apart], rfl⟩

theorem empty_alike (status : Nat) :
    Alike c fresh fresh' (emptyAnswer status) (emptyAnswer status) :=
  ⟨rfl, by simp [emptyAnswer, answerOf, openHeaders, exposed, relocated], rfl⟩

theorem queue_alike (result : Except ExecutorError Unit) :
    Alike c fresh fresh' (queueAnswer c fresh result) (queueAnswer c fresh' result) := by
  cases result with
  | error e => exact fixed_alike 503 "content-type" "application/json" _ (by decide)
  | ok _ => exact ⟨rfl, by simp [queueAnswer, answerOf, openHeaders, exposed, relocated], rfl⟩

theorem receipt_alike {taken taken' : Answer} (alike : Alike c fresh fresh' taken taken')
    (body : Bytes) : Alike c fresh fresh' (receipt taken body) (receipt taken' body) := by
  simp only [receipt]
  split
  · exact fixed_alike 413 "content-type" "text/plain; charset=utf-8" _ (by decide)
  · split
    · exact empty_alike 400
    · exact alike

/-- What a body is answered with when it is posted depends on the body, and on whether the queue is
    closed or full if there is one. Nothing in it comes from the robot, nor from what this batch or
    an earlier one has come to. -/
theorem posts_tell_no_outcome (runs : Runs c used g) (runs' : Runs c used' g')
    (unused : fresh ∉ used) (unused' : fresh' ∉ used') (posts : Posts c r) (posts' : Posts c r')
    (body : r'.body = r.body)
    (queues : c.mode = .async →
      admission g'.rota.engine.pool = admission g.rota.engine.pool)
    (answers : Answers g fresh r answer) (answers' : Answers g' fresh' r' answer') :
    (c.mode = .sync → answer = receipt (emptyAnswer 200) r.body) ∧
    (c.mode = .async →
      answer = receipt (queueAnswer c fresh (admission g.rota.engine.pool)) r.body) ∧
    Replied c g.rota.engine.pool fresh r.body answer ∧ Alike c fresh fresh' answer answer' := by
  rw [posted_answer runs unused posts answers, posted_answer runs' unused' posts' answers', body]
  refine ⟨fun mode => post_answer_sync mode _ _, fun mode => post_answer_async mode _ _,
    post_replied .., ?_⟩
  cases mode : c.mode with
  | sync =>
    rw [post_answer_sync mode, post_answer_sync mode]
    exact receipt_alike (empty_alike 200) r.body
  | async =>
    rw [post_answer_async mode, post_answer_async mode, queues mode]
    exact receipt_alike (queue_alike _) r.body

end Pairs

def greeted : Request :=
  ⟨"POST", "/api/commands",
    Text.utf8 "\x7b\"commands\":[\x7b\"type\":\"say_something\",\"args\":[\"Hello\"]\x7d]\x7d"⟩

def inlineConfig : Config := { Config.default with mode := .sync }

def noRobot : Accessor Unit Unit := .offline ()

def deserted : Gateway Unit Unit := .standard inlineConfig noRobot ⟨true, []⟩

def skittish : Accessor Robot.Scripted Nat :=
  .online (Robot.scripted ⟨[.panics .other], []⟩) .fresh

def startled : Gateway Robot.Scripted Nat := .standard inlineConfig skittish ⟨true, []⟩

def opened (accessor : Accessor σ H) : Gateway σ H :=
  .standard oneSeat.config accessor ⟨true, []⟩

def crowded (accessor : Accessor σ H) : Gateway σ H :=
  ((opened accessor).handle (Uuid.ofNat 1) greeted).gateway

theorem crowded_runs (accessor : Accessor σ H) :
    Runs oneSeat.config [Uuid.ofNat 1] (crowded accessor) := by
  have reached : Reaches (opened accessor) [Uuid.ofNat 1] (crowded accessor) :=
    .asked .here (Uuid.ofNat 1) List.not_mem_nil greeted
  exact .since (opened accessor) (start_is_new ..) rfl rfl reached

def noPlace : Answer := explain 503 "the command queue is full"

theorem greeting_answered_alike :
    (Answers deserted (Uuid.ofNat 1) greeted (emptyAnswer 200) ∧
      Answers startled (Uuid.ofNat 2) greeted (emptyAnswer 200) ∧
      (emptyAnswer 200).status = 200 ∧ (emptyAnswer 200).body = "" ∧
      Alike inlineConfig (Uuid.ofNat 1) (Uuid.ofNat 2) (emptyAnswer 200) (emptyAnswer 200)) ∧
    Answers (crowded noRobot) (Uuid.ofNat 2) greeted noPlace ∧
      Answers (crowded skittish) (Uuid.ofNat 3) greeted noPlace ∧
      noPlace.status = 503 ∧
      noPlace.body = "\x7b\"message\":\"the command queue is full\"\x7d" ∧
      Alike oneSeat.config (Uuid.ofNat 2) (Uuid.ofNat 3) noPlace noPlace := by
  have quiet : Answers deserted (Uuid.ofNat 1) greeted (emptyAnswer 200) :=
    answered_alone [.advance, .advance, .advance, .advance, .advance] rfl (by decide)
  have loud : Answers startled (Uuid.ofNat 2) greeted (emptyAnswer 200) :=
    answered_alone [.advance, .advance, .lookUp, .answer, .advance, .advance, .advance] rfl
      (by decide)
  have waits : inlineConfig.mode ≠ .async := nofun
  have taken := posts_tell_no_outcome (start_runs ..) (start_runs ..) List.not_mem_nil
    List.not_mem_nil ⟨rfl, rfl⟩ ⟨rfl, rfl⟩ rfl (absurd · waits) quiet loud
  have idle : Answers (crowded noRobot) (Uuid.ofNat 2) greeted noPlace := .once _ _ rfl
  have busy : Answers (crowded skittish) (Uuid.ofNat 3) greeted noPlace := .once _ _ rfl
  have full : admission (crowded skittish).rota.engine.pool =
      admission (crowded noRobot).rota.engine.pool := rfl
  have posts : Posts oneSeat.config greeted := ⟨rfl, rfl⟩
  have refused := posts_tell_no_outcome (crowded_runs noRobot) (crowded_runs skittish) (by decide)
    (by decide) posts posts rfl (fun _ => full) idle busy
  exact ⟨⟨quiet, loud, rfl, rfl, taken.2.2.2⟩, idle, busy, rfl, rfl, refused.2.2.2⟩

def padded (blanks : Nat) : Request :=
  ⟨"POST", "/api/commands", greeted.body ++ List.replicate blanks 0x20⟩

theorem padded_held (blanks : Nat) : ∃ batch, Batch.ofBytes (padded blanks).body = .ok batch := by
  have value : ∀ text rest, ∃ v batch, Batch.ofJson v = .ok batch ∧
      readValue text deepest (greeted.body ++ rest) = .ok (v, rest) :=
    fun _ _ => ⟨_, _, rfl, rfl⟩
  obtain ⟨c, t, spelt⟩ : ∃ c t, greeted.body = c :: t := ⟨_, _, rfl⟩
  obtain ⟨v, batch, verdict, read⟩ :=
    value (readNested (t ++ List.replicate blanks 0x20)) (List.replicate blanks 0x20)
  have skipped : skipBlank (List.replicate blanks 0x20) = [] := by
    simp [skipBlank, isBlank]
  rw [spelt, List.cons_append] at read
  refine ⟨batch, ?_⟩
  simp only [padded, spelt, List.cons_append, Batch.ofBytes, Json.read, readNested, whole, read,
    skipped, verdict]

theorem long_greeting_refused :
    (∃ batch, Batch.ofBytes (padded 2499936).body = .ok batch) ∧
    Answers deserted (Uuid.ofNat 1) (padded 2499936) tooLarge ∧
    tooLarge.status ≠ 200 ∧ tooLarge.status ≠ 400 := by
  have large : bodyLimit < (padded 2499936).body.length := by
    simp only [padded, bodyLimit, List.length_append, List.length_replicate]
    omega
  have posts : Posts deserted.config (padded 2499936) := ⟨rfl, rfl⟩
  refine ⟨padded_held _, .once _ deserted ?_, by decide, by decide⟩
  rw [handle_posted posts, Gateway.submit, if_pos large]

end CommandGateway.Api
