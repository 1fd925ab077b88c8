import CommandGateway.Proofs.Api.Location
import CommandGateway.Proofs.Api.Session

/- Clients that hang up. A batch is dispatched to its end although nobody waits for it any more, and
   nothing that is done for it, or for others, is any different. -/
namespace CommandGateway.Api

open Pool Engine

variable {σ H : Type}

def Turn.ids : Turn → List Uuid
  | .ask fresh _ => [fresh]
  | .pool action => issued [action]
  | _ => []

def idsOf (turns : List Turn) : List Uuid := turns.flatMap Turn.ids

/-- The story of a queue has gone on, and the log tells what the dispatches have done. -/
structure Unfolds (used : List Uuid) (past : List Entry) (log : DeedLog H) (e : Engine σ H) :
    Prop where
  sound : Sound used e.pool
  story : ∃ es, Story used e.pool (past ++ es) ∧ Traced e (past ++ es) log

section Queue
variable {used : List Uuid} {past : List Entry} {log : DeedLog H} {e e' : Engine σ H} {m : Move}
  {id : Uuid} {batch : Batch} {s : Session σ H} {t : Turn} {g : Gateway σ H} {turns : List Turn}

theorem unfolds_mono (more : List Uuid) (unfolds : Unfolds used past log e) :
    Unfolds (more ++ used) past log e := by
  obtain ⟨sound, es, ⟨acc, tracks, once, known⟩, traced⟩ := unfolds
  exact ⟨sound_mono more sound, es,
    ⟨acc, tracks, once, fun id member => List.mem_append_right _ (known id member)⟩, traced⟩

theorem moved_unfolds (moved : Moved e m e') (queued : m.isQueued)
    (unfolds : Unfolds used past log e) (new : ∀ id ∈ issued (poolActions [m]), id ∉ used) :
    Unfolds (issued (poolActions [m]) ++ used) past (log ++ deedsIn e m) e' := by
  obtain ⟨sound, es, story, traced⟩ := unfolds
  have traced := move_traced moved story.acc story.once traced
  have acted := moved_pool moved
  cases m with
  | pool action =>
    have step := act_step acted
    refine ⟨step_sound step sound new, es ++ entries e.pool action, ?_⟩
    rw [← List.append_assoc]
    exact ⟨step_story step story new, traced⟩
  | step owner step =>
    simp only at acted
    refine ⟨acted ▸ sound, es, acted ▸ story, ?_⟩
    simpa only [happened, List.append_nil] using traced
  | request | call | giveUp => cases queued

theorem submitted_unfolds (unfolds : Unfolds used past log e) (new : id ∉ used) :
    Unfolds (id :: used) past log { e with pool := submitted e.pool id batch } := by
  refine submitted_keeps (P := fun used q => Unfolds used past log { e with pool := q })
    (fun {used q a} member unfolds new => ?_) unfolds new
  cases acted : q.act? a with
  | none =>
    rw [played, acted]
    exact unfolds_mono _ unfolds
  | some q' =>
    have moved : Moved { e with pool := q } (.pool a) { e with pool := q' } :=
      .other a q' (submission_plain member) acted
    have next := moved_unfolds moved rfl unfolds new
    simp only [deedsIn, List.append_nil] at next
    rw [played, acted]
    exact next

theorem turned_unfolds (turned : Turned s t g) (mode : s.gateway.config.mode = .async)
    (unfolds : Unfolds used past log s.engine) (new : ∀ id ∈ t.ids, id ∉ used) :
    Unfolds (t.ids ++ used) past (log ++ s.deeds t) g.rota.engine := by
  cases turned with
  | still _ idle =>
    rw [still_deeds idle, List.append_nil]
    exact unfolds_mono _ unfolds
  | asked fresh r =>
    rw [still_deeds rfl, List.append_nil]
    have cases := handle_cases s.gateway fresh r
    generalize s.gateway.handle fresh r = handling at cases
    cases cases with
    | elsewhere | large | rejected => exact unfolds_mono [fresh] unfolds
    | inline posts small sync => rw [mode] at sync; cases sync
    | queued posts small _ batch held =>
      simp only [Handling.gateway, (submit_engine fresh batch).1]
      exact submitted_unfolds unfolds (new fresh (List.mem_singleton_self fresh))
  | acted action e move =>
    rw [still_deeds rfl]
    exact moved_unfolds (move_moved move) rfl unfolds new
  | stepped owner step e move =>
    rw [stepped_deeds move]
    exact moved_unfolds (move_moved move) rfl unfolds (List.forall_mem_nil _)

theorem turned_settings (turned : Turned s t g) :
    g.config = s.gateway.config ∧ g.rota.engine.registry = s.engine.registry := by
  cases turned with
  | still => exact ⟨rfl, rfl⟩
  | asked => exact ⟨handle_config, handle_registry⟩
  | acted _ _ move | stepped _ _ _ move => exact ⟨rfl, moved_registry (move_moved move)⟩

theorem run_settings (detached : Detached s) (turns : List Turn) :
    (s.run turns).gateway.config = s.gateway.config ∧
      (s.run turns).engine.registry = s.engine.registry := by
  induction turns generalizing s with
  | nil => exact ⟨rfl, rfl⟩
  | cons t rest ih =>
    obtain ⟨config, registry⟩ := turned_settings (turn_turned detached t)
    obtain ⟨config', registry'⟩ := ih (turn_detached detached t)
    exact ⟨config'.trans config, registry'.trans registry⟩

theorem run_unfolds (detached : Detached s) (mode : s.gateway.config.mode = .async)
    (unfolds : Unfolds used past log s.engine) (once : (idsOf turns).Nodup)
    (new : ∀ id ∈ idsOf turns, id ∉ used) :
    ∃ used', Unfolds used' past (log ++ s.log turns) (s.run turns).engine ∧
      ∀ id ∈ used', id ∈ idsOf turns ∨ id ∈ used := by
  induction turns generalizing s used log with
  | nil => exact ⟨used, by rwa [Session.log, List.append_nil], fun id member => Or.inr member⟩
  | cons t rest ih =>
    have turned := turn_turned detached t
    rw [idsOf, List.flatMap_cons, List.nodup_append] at once
    rw [idsOf, List.flatMap_cons] at new
    obtain ⟨-, later, apart⟩ := once
    obtain ⟨now, others⟩ := List.forall_mem_append.mp new
    have mode' : (s.turn t).gateway.config.mode = .async := by
      rw [(turned_settings turned).1, mode]
    obtain ⟨used', unfolds', known⟩ := ih (turn_detached detached t) mode'
      (turned_unfolds turned mode unfolds now) later fun id member given =>
        (List.mem_append.mp given).elim (fun here => apart id here id member rfl) (others id member)
    rw [List.append_assoc] at unfolds'
    refine ⟨used', unfolds', fun id member => ?_⟩
    rcases known id member with given | given
    · exact Or.inl (List.mem_append_right _ given)
    · exact (List.mem_append.mp given).imp_left (List.mem_append_left _)

end Queue

structure Gateway.IsReady (g : Gateway σ H) : Prop where
  new : g.IsNew
  handlers : g.rota.engine.registry = .standard g.config.service
  grounded : g.rota.engine.scene.inFlight = []

theorem standard_ready (c : Config) (accessor : Accessor σ H) (gate : Gate) :
    (Gateway.standard c accessor gate).IsReady := ⟨start_is_new .., rfl, rfl⟩

def Dispatched (service : String) (batch : Batch) (deeds : List (Deed H)) (report : Report) :
    Prop :=
  ∃ attempts, Faithful (.standard service) batch attempts deeds report

section Starts
variable {first : Gateway σ H} {turns : List Turn}

theorem start_detached (g : Gateway σ H) : Detached (Session.start g) := by
  intro i wait found
  simp [Session.start] at found

theorem dispatched_entered {p : Pool} {past : List Entry} {job : Job} (acc : Accounts p past)
    (dispatched : job ∈ dispatchedIn past) : job.id ∈ enteredIn past := by
  have accepted := List.mem_map_of_mem (f := Job.id) (dispatched_accepted acc dispatched)
  exact acc.calls.mem_iff.mpr (List.mem_append_left _ (List.mem_append_right _ accepted))

theorem idle_traced {e : Engine σ H} {past : List Entry} (idle : e.errands = [])
    (acc : Accounts e.pool past) (nobody : ∀ id, id ∉ enteredIn past) : Traced e past [] := by
  have none : ∀ job, job ∉ dispatchedIn past :=
    fun job dispatched => nobody job.id (dispatched_entered acc dispatched)
  refine ⟨by simp [idle], by simp [idle], ?_, ?_, ?_, fun _ _ => rfl⟩
  · exact fun w job running => absurd (running_dispatched acc running rfl) (none job)
  · exact fun w job result ended => absurd (running_dispatched acc ended rfl) (none job)
  · exact fun job result recorded => absurd (recorded_dispatched acc recorded) (none job)

theorem start_unfolds (new : first.IsNew) : ∃ past, Unfolds [] past [] first.rota.engine := by
  obtain ⟨sound, -⟩ := reached_sound new .here
  obtain ⟨past, acc, tracks, once, known⟩ := sound.story
  have nobody : ∀ id, id ∉ enteredIn past := fun id entered => nomatch known id entered
  refine ⟨past, sound, [], ?_⟩
  rw [List.append_nil]
  exact ⟨⟨acc, tracks, once, known⟩, idle_traced new.idle acc nobody⟩

theorem start_serving (ready : first.IsReady) (sync : first.config.mode = .sync) :
    Serving (Session.start first) := by
  obtain ⟨new, -, grounded⟩ := ready
  refine ⟨sync, start_detached first, (reached_sound new .here).2 sync, ?_⟩
  have errands : (Session.start first).engine.errands = [] := new.idle
  have inFlight : (Session.start first).engine.scene.inFlight = [] := grounded
  refine ⟨by simp [errands], ⟨?_, ?_, ?_⟩, ?_⟩ <;> simp [errands, inFlight]

theorem run_serving {s : Session σ H} (serving : Serving s) (turns : List Turn) :
    Serving (s.run turns) := by
  induction turns generalizing s with
  | nil => exact serving
  | cons t rest ih => exact ih (turn_serving serving t).1

end Starts

section Requests
variable {service : String} {batch : Batch} {body : Bytes} {n : Nat} {id : Uuid}
  {s : Session σ H} {fresh : Uuid} {r : Request}

theorem payload_dispatched (held : Batch.ofBytes body = .ok batch) {deeds : List (Deed H)}
    {outcome : Ended DispatchOutcome}
    (course : Course (dispatchPayload (.standard service) body) deeds outcome) :
    ∃ report, Dispatched service batch deeds report ∧ outcome = .returned (.accepted report) := by
  simp only [dispatchPayload, held] at course
  obtain ⟨first, ended, second, rfl, dispatched, last⟩ := bind_course course
  obtain ⟨attempts, report, rfl, faithful⟩ :=
    dispatch_faithful (standard_gives_futures batch.commands) dispatched
  obtain ⟨rfl, rfl⟩ := course_done_iff.mp last
  exact ⟨report, ⟨attempts, by rwa [List.append_nil]⟩, rfl⟩

/-- Where the errand of a request is with its batch. -/
structure Attends (service : String) (batch : Batch) (n : Nat) (log : DeedLog H) (e : Engine σ H)
    (stage : Stage H (Ended DispatchOutcome)) (ahead : List (Deed H)) (report : Report) :
    Prop where
  here : errandOf (.request n) e.errands = some (.payload n stage)
  dispatched : Dispatched service batch (doneBy (.request n) log ++ ahead) report
  ends : ∀ outcome, stage = .finished outcome →
    outcome = .returned (.accepted report) ∧ ahead = []

theorem ask_waiting {g : Gateway σ H} (handled : s.gateway.handle fresh r = .waiting n g) :
    s.ask fresh r = ⟨g, s.exchanges ++ [.suspended (.spawned (.request n))]⟩ := by
  rw [Session.ask, handled]

theorem ask_answered {g : Gateway σ H} {answer : Answer}
    (handled : s.gateway.handle fresh r = .answered answer g) :
    s.ask fresh r = ⟨g, s.exchanges ++ [.answered answer]⟩ := by
  rw [Session.ask, handled]

theorem asked_inline (fresh : Uuid) (serving : Serving s) (posts : Posts s.gateway.config r)
    (small : r.body.length ≤ bodyLimit) :
    (s.ask fresh r).exchanges =
        s.exchanges ++ [.suspended (.spawned (.request s.engine.errands.length))] ∧
      errandOf (.request s.engine.errands.length) (s.ask fresh r).engine.errands =
        some (.payload s.engine.errands.length
          (.ready (dispatchPayload s.engine.registry r.body))) := by
  have handled := handle_inline fresh posts small serving.sync
  rw [ask_waiting handled]
  exact ⟨rfl, (waits_serves (fun _ => serving.inline) handled).2⟩

theorem attends (fresh : Uuid) (serving : Serving s)
    (handlers : s.engine.registry = .standard service) (posts : Posts s.gateway.config r)
    (small : r.body.length ≤ bodyLimit) (held : Batch.ofBytes r.body = .ok batch)
    (turns : List Turn) :
    ∃ stage ahead report, Attends service batch s.engine.errands.length
      ((s.ask fresh r).log turns) ((s.ask fresh r).run turns).engine stage ahead report := by
  obtain ⟨-, found⟩ := asked_inline fresh serving posts small
  rw [handlers] at found
  -- all that the errand can still do goes on with what it has done
  obtain ⟨stage, here, leads⟩ := run_does
    (P := fun done stage => ∀ rest outcome, stage.Ahead rest outcome →
      Course (dispatchPayload (.standard service) r.body) (done ++ rest) outcome)
    (turn_serving serving (.ask fresh r)).1.detached
    (fun stepped leads rest outcome ahead => by
      rw [List.append_assoc]
      exact leads _ outcome (stepped_ahead stepped ahead)) []
    ⟨_, found, fun rest outcome course => course⟩ turns
  obtain ⟨ahead, outcome, onward⟩ := end_ahead s.engine.scene.accessor stage
  obtain ⟨report, dispatched, rfl⟩ := payload_dispatched held (leads ahead outcome onward)
  refine ⟨stage, ahead, report, here, dispatched, ?_⟩
  rintro outcome rfl
  obtain ⟨rfl, same⟩ := onward
  exact ⟨same.symm, rfl⟩

theorem attended_finishes (serving : Serving s) (handlers : s.engine.registry = .standard service)
    (posts : Posts s.gateway.config r) (small : r.body.length ≤ bodyLimit)
    (held : Batch.ofBytes r.body = .ok batch) {turns : Nat → Turn}
    (fair : FairTurns (s.ask fresh r) turns) :
    ∃ n report, Attends service batch s.engine.errands.length
      ((s.ask fresh r).log ((List.range n).map turns)) ((s.ask fresh r).after turns n).engine
      (.finished (.returned (.accepted report))) [] report := by
  obtain ⟨-, found⟩ := asked_inline fresh serving posts small
  obtain ⟨n, last, here, finished⟩ :=
    errand_finishes (turn_serving serving (.ask fresh r)).1 fair found
  obtain ⟨stage, ahead, report, here', dispatched, ends⟩ :=
    attends fresh serving handlers posts small held ((List.range n).map turns)
  obtain rfl : .payload s.engine.errands.length stage = last :=
    Option.some.inj (here'.symm.trans here)
  cases stage with
  | finished outcome =>
    obtain ⟨rfl, rfl⟩ := ends outcome rfl
    exact ⟨n, report, here', dispatched, ends⟩
  | _ => cases finished

end Requests

section Jobs
variable {service : String} {batch : Batch} {body : Bytes} {id : Uuid} {s : Session σ H}
  {fresh : Uuid} {r : Request} {used : List Uuid} {past : List Entry} {log : DeedLog H}

/-- Where a job is with its batch, by what was done for it and what is known of it. -/
structure Tended (service : String) (batch : Batch) (id : Uuid) (log : DeedLog H) (p : Pool)
    (ahead : List (Deed H)) (report : Report) : Prop where
  dispatched : Dispatched service batch (doneBy (.job id) log ++ ahead) report
  ends : ∀ state, p.tracker.get? id = some state → state.isFinished →
    state = .completed report ∧ ahead = []

theorem job_tended {e : Engine σ H} {job : Job} (handlers : e.registry = .standard service)
    (unfolds : Unfolds used past log e) (accepted : job ∈ acceptedIn past) :
    ∃ ahead report, Tended service job.batch job.id log e.pool ahead report := by
  obtain ⟨-, es, ⟨acc, tracks, once, -⟩, traced⟩ := unfolds
  have still : job ∈ acceptedIn (past ++ es) := by
    rw [acceptedIn, List.filterMap_append]
    exact List.mem_append_left _ accepted
  obtain ⟨ahead, result, course, ends⟩ := traced_course acc once traced still
  rw [handlers] at course
  obtain ⟨attempts, report, rfl, faithful⟩ :=
    dispatch_faithful (standard_gives_futures job.batch.commands) course
  refine ⟨ahead, report, ⟨attempts, faithful⟩, fun state known finished => ?_⟩
  obtain ⟨other, result, recorded, same, rfl⟩ :=
    finished_recorded tracks (recorded_nodup acc once) known finished
  have early := dispatched_accepted acc (recorded_dispatched acc recorded)
  obtain rfl : other = job := List.inj_on_of_nodup_map (accepted_nodup acc once) early still same
  obtain ⟨rfl, rfl⟩ := ends result recorded
  exact ⟨rfl, rfl⟩

theorem asked_queued (sound : Sound used s.engine.pool) (new : fresh ∉ used)
    (mode : s.gateway.config.mode = .async) (posts : Posts s.gateway.config r)
    (small : r.body.length ≤ bodyLimit) (held : Batch.ofBytes r.body = .ok batch)
    (room : HasRoom s.engine.pool) :
    (s.ask fresh r).exchanges =
        s.exchanges ++ [.answered (queueAnswer s.gateway.config fresh (.ok ()))] ∧
      Added ⟨fresh, batch⟩ s.engine.pool (s.ask fresh r).engine.pool := by
  have handled := handle_queued fresh posts small mode held
  have called := submit_submitted (r := s.gateway.rota) batch sound new
  have admitted := submitted_admission called room
  rw [ask_answered handled, admitted]
  exact ⟨rfl, submitted_added called (new_unknown sound new) admitted⟩

theorem tended (detached : Detached s) (unfolds : Unfolds used past log s.engine)
    (handlers : s.engine.registry = .standard service) (mode : s.gateway.config.mode = .async)
    (posts : Posts s.gateway.config r) (small : r.body.length ≤ bodyLimit)
    (held : Batch.ofBytes r.body = .ok batch) (room : HasRoom s.engine.pool) {turns : List Turn}
    (once : (fresh :: idsOf turns).Nodup) (new : ∀ id ∈ fresh :: idsOf turns, id ∉ used) :
    ∃ ahead report, Tended service batch fresh ((s.ask fresh r).log turns)
      ((s.ask fresh r).run turns).engine.pool ahead report := by
  obtain ⟨unused, later⟩ := List.forall_mem_cons.mp new
  obtain ⟨own, once⟩ := List.nodup_cons.mp once
  have turned := turn_turned detached (.ask fresh r)
  obtain ⟨config, registry⟩ := turned_settings turned
  have mode' : (s.ask fresh r).gateway.config.mode = .async := config ▸ mode
  have detached' : Detached (s.ask fresh r) := turn_detached detached (.ask fresh r)
  have asked := turned_unfolds turned mode unfolds
    (fun id member => List.mem_singleton.mp member ▸ unused)
  rw [still_deeds rfl, List.append_nil] at asked
  obtain ⟨-, added⟩ := asked_queued unfolds.sound unused mode posts small held room
  obtain ⟨sound, es, story, traced⟩ := asked
  -- from here on the batch is in the story, and nothing has been done for it
  have here : Unfolds (fresh :: used) (past ++ es) log (s.ask fresh r).engine :=
    ⟨sound, [], by rw [List.append_nil]; exact ⟨story, traced⟩⟩
  obtain ⟨used', unfolds', -⟩ := run_unfolds detached' mode' here once fun id member known =>
    (List.mem_cons.mp known).elim (fun same => own (same ▸ member)) (later id member)
  have handlers' : ((s.ask fresh r).run turns).engine.registry = .standard service :=
    (run_settings detached' turns).2.trans (registry.trans handlers)
  obtain ⟨ahead, report, dispatched, ends⟩ :=
    job_tended handlers' unfolds' (queued_accepted story added)
  have nothing : doneBy (.job fresh) log = [] := by
    obtain ⟨-, es, story, traced⟩ := unfolds
    refine traced.pending fresh fun started => ?_
    obtain ⟨job, member, same⟩ := List.mem_map.mp started
    exact unused (same ▸ story.known job.id (dispatched_entered story.acc member))
  rw [done_by_append, nothing, List.nil_append] at dispatched
  exact ⟨ahead, report, dispatched, ends⟩

end Jobs

/-- What comes of a batch that a request brings to a session, whatever its client does then. The
    ids given before are those of other calls. -/
structure Outlives (s : Session σ H) (given : List Uuid) (fresh : Uuid) (r : Request)
    (batch : Batch) : Prop where
  unnoticed : ∀ turns, Unnoticed s.exchanges.length ((s.ask fresh r).run turns)
    ((s.ask fresh r).run (patient s.exchanges.length turns))
  heard : ∀ connector, s.engine.scene.accessor.connector = some connector → ∀ turns,
    heard ((s.ask fresh r).run turns).engine.scene =
      heard s.engine.scene ++ spokenIn ((s.ask fresh r).log turns)
  suspended : s.gateway.config.mode = .sync → (s.ask fresh r).exchanges =
    s.exchanges ++ [.suspended (.spawned (.request s.engine.errands.length))]
  attended : s.gateway.config.mode = .sync → ∀ turns, ∃ stage ahead report,
    Attends s.gateway.config.service batch s.engine.errands.length ((s.ask fresh r).log turns)
      ((s.ask fresh r).run turns).engine stage ahead report
  finishes : s.gateway.config.mode = .sync → ∀ turns, FairTurns (s.ask fresh r) turns →
    ∃ n report, Attends s.gateway.config.service batch s.engine.errands.length
      ((s.ask fresh r).log ((List.range n).map turns)) ((s.ask fresh r).after turns n).engine
      (.finished (.returned (.accepted report))) [] report
  queued : s.gateway.config.mode = .async → HasRoom s.engine.pool → (given ++ [fresh]).Nodup →
    (s.ask fresh r).exchanges =
        s.exchanges ++ [.answered (queueAnswer s.gateway.config fresh (.ok ()))] ∧
      Added ⟨fresh, batch⟩ s.engine.pool (s.ask fresh r).engine.pool
  tended : s.gateway.config.mode = .async → HasRoom s.engine.pool → ∀ turns,
    (given ++ fresh :: idsOf turns).Nodup → ∃ ahead report,
      Tended s.gateway.config.service batch fresh ((s.ask fresh r).log turns)
        ((s.ask fresh r).run turns).engine.pool ahead report

section Clients
variable {first : Gateway σ H} {r : Request} {batch : Batch}

theorem batch_outlives_client (before : List Turn) (fresh : Uuid) (ready : first.IsReady)
    (posts : Posts first.config r) (small : r.body.length ≤ bodyLimit)
    (held : Batch.ofBytes r.body = .ok batch) :
    Outlives ((Session.start first).run before) (idsOf before) fresh r batch := by
  have detached := start_detached first
  obtain ⟨config, registry⟩ := run_settings detached before
  have detached := run_detached detached before
  have started : first.config.mode = .async → (idsOf before).Nodup → ∃ used past log,
      Unfolds used past log ((Session.start first).run before).engine ∧
        ∀ id ∈ used, id ∈ idsOf before := by
    intro mode once
    obtain ⟨past, unfolds⟩ := start_unfolds ready.new
    obtain ⟨used, unfolds, known⟩ :=
      run_unfolds (start_detached first) mode unfolds once fun _ _ => List.not_mem_nil
    exact ⟨used, past, _, unfolds, fun id member =>
      (known id member).resolve_right List.not_mem_nil⟩
  have serving : first.config.mode = .sync → Serving ((Session.start first).run before) :=
    fun mode => run_serving (start_serving ready mode) before
  generalize (Session.start first).run before = s at *
  have config : s.gateway.config = first.config := config
  have handlers : s.engine.registry = .standard s.gateway.config.service :=
    registry.trans (config ▸ ready.handlers)
  rw [← config] at posts started serving
  constructor
  case unnoticed =>
    exact fun turns =>
      run_unnoticed (turn_detached detached (.ask fresh r)) ⟨rfl, rfl, fun _ _ => rfl⟩
  case heard =>
    intro connector online turns
    obtain ⟨online', same⟩ := turned_heard (turn_turned detached (.ask fresh r)) online
    rw [still_deeds rfl] at same
    have told := run_heard (turn_detached detached (.ask fresh r)) online' turns
    exact told.trans (congrArg (· ++ _) (same.trans (List.append_nil _)))
  case suspended => exact fun mode => (asked_inline fresh (serving mode) posts small).1
  case attended => exact fun mode => attends fresh (serving mode) handlers posts small held
  case finishes =>
    exact fun mode turns => attended_finishes (serving mode) handlers posts small held
  case queued =>
    intro mode room once
    obtain ⟨once, -, apart⟩ := List.nodup_append.mp once
    obtain ⟨used, past, log, unfolds, known⟩ := started mode once
    have new : fresh ∉ used := fun member =>
      apart fresh (known fresh member) fresh (List.mem_singleton_self fresh) rfl
    exact asked_queued unfolds.sound new mode posts small held room
  case tended =>
    intro mode room turns once
    obtain ⟨once, later, apart⟩ := List.nodup_append.mp once
    obtain ⟨used, past, log, unfolds, known⟩ := started mode once
    have new : ∀ id ∈ fresh :: idsOf turns, id ∉ used :=
      fun id member given => apart id (known id given) id member rfl
    exact tended detached unfolds handlers mode posts small held room later new

end Clients

def twoWords : Request :=
  ⟨"POST", "/api/commands", Text.utf8 <|
    "\x7b\"commands\":[\x7b\"type\":\"say_something\",\"args\":[\"a\"]\x7d," ++
      "\x7b\"type\":\"say_something\",\"args\":[\"b\"]\x7d]\x7d"⟩

def wordBatch : Batch :=
  ⟨[⟨.known .saySomething, [.string "a"]⟩, ⟨.known .saySomething, [.string "b"]⟩], by simp⟩

def listener : Gateway Robot.Scripted Nat :=
  .standard inlineConfig
    (.online (Robot.scripted ⟨[], [.fails (.remote "tts" "busy")]⟩) .fresh) ⟨true, []⟩

def spokenTo : Session Robot.Scripted Nat :=
  (Session.start listener).ask (Uuid.ofNat 1) twoWords

def errandTurns (steps : List Step) : List Turn := steps.map (.step (.request 0))

def leaving : List Turn :=
  errandTurns [.advance, .advance, .lookUp, .answer, .advance, .advance] ++ [.hangUp 0] ++
    errandTurns [.hear, .advance, .advance, .advance, .advance, .advance, .hear, .advance, .advance]

/-- These turns, and then for ever those of a client that is not there. -/
def untilOver (turns : List Turn) (n : Nat) : Turn := turns.getD n (.poll 1)

theorem leaving_fair : FairTurns spokenTo (untilOver leaving) := by
  have here : spokenTo.after (untilOver leaving) 16 = spokenTo.run leaving := rfl
  have rest := after_rest here fun n later => by
    have past : untilOver leaving n = .poll 1 := by
      simp [untilOver, List.getElem?_eq_none (show leaving.length ≤ n from later)]
    rw [past]
    rfl
  have standings : (spokenTo.run leaving).engine.errands.map Errand.standing = [.finished] := by
    decide +kernel
  refine fair_of_rest rest fun errand member => ?_
  have finished := standings ▸ List.mem_map_of_mem member
  exact List.mem_singleton.mp finished

def pickingUp : List Turn := [.hangUp 0, .pool (.take 0), .pool (.mark 0)]

theorem two_words_outlive_client :
    (Outlives (Session.start listener) [] (Uuid.ofNat 1) twoWords wordBatch ∧
      (∃ n report, Attends inlineConfig.service wordBatch 0
        (spokenTo.log ((List.range n).map (untilOver leaving)))
        (spokenTo.after (untilOver leaving) n).engine (.finished (.returned (.accepted report)))
        [] report) ∧
      (heard (spokenTo.run leaving).engine.scene).map (fun d => (d.1, d.2.text)) =
        [(.request 0, "a"), (.request 0, "b")]) ∧
    Outlives (Session.start oneSeat) [] (Uuid.ofNat 1) twoWords wordBatch ∧
      Added ⟨Uuid.ofNat 1, wordBatch⟩ oneSeat.rota.engine.pool
        ((Session.start oneSeat).ask (Uuid.ofNat 1) twoWords).engine.pool ∧
      ∃ ahead report, Tended oneSeat.config.service wordBatch (Uuid.ofNat 1)
        (((Session.start oneSeat).ask (Uuid.ofNat 1) twoWords).log pickingUp)
        (((Session.start oneSeat).ask (Uuid.ofNat 1) twoWords).run pickingUp).engine.pool
        ahead report := by
  have inline : Outlives (Session.start listener) [] (Uuid.ofNat 1) twoWords wordBatch :=
    batch_outlives_client [] _ (standard_ready ..) ⟨rfl, rfl⟩ (by decide) rfl
  have queued : Outlives (Session.start oneSeat) [] (Uuid.ofNat 1) twoWords wordBatch :=
    batch_outlives_client [] _ (standard_ready ..) ⟨rfl, rfl⟩ (by decide) rfl
  have room : HasRoom oneSeat.rota.engine.pool := ⟨rfl, by decide⟩
  exact ⟨⟨inline, inline.finishes rfl _ leaving_fair, by decide +kernel⟩, queued,
    (queued.queued rfl room (by decide)).2, queued.tended rfl room pickingUp (by decide)⟩

/-- A future that held the dispatch itself would take it away, and the second word with it. -/
example :
    let s := spokenTo.run (leaving.take 6)
    let dropped := { s with
      gateway := s.gateway.withEngine (s.engine.drop (.held (.request 0))) }
    (heard (dropped.run (leaving.drop 7)).engine.scene).map (fun d => d.2.text) = ["a"] := by
  decide +kernel

end CommandGateway.Api
