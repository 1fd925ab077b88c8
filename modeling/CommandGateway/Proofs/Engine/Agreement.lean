import CommandGateway.Proofs.Engine.Alone
import CommandGateway.Proofs.Engine.Custody
import CommandGateway.Robot.Scripted
import Mathlib.Order.WellFounded

/- The queue against the direct way. What one worker makes of the batches that were queued, whenever
   it gets its turns, is what comes of dispatching the same bodies one after another. -/
namespace CommandGateway.Engine

open Pool

variable {σ H α : Type}

def Move.drains : Move → Bool
  | .pool (.take _) => true
  | .pool (.mark _) => true
  | .pool (.finish _ _) => true
  | .pool (.record _) => true
  | .pool (.deliver _) => true
  | .step _ _ => true
  | _ => false

def Quiet (p : Pool) : Prop := p.queue = [] ∧ ∀ phase ∈ p.workers, phase = .idle ∨ phase = .gone

section Progress
variable {e e' : Engine σ H} {m : Move} {past : List Entry} {first : Accessor σ H}

theorem alone_stage_goes_on {s : Scene σ H} {stage : Stage H α} (owner : Owner)
    (alone : stage.IsAlone s) :
    (∃ result, stage = .finished result) ∨ ∃ step next, stage.step? owner s step = some next := by
  cases stage with
  | ready work => exact Or.inr ⟨.advance, _, rfl⟩
  | waiting service next =>
    obtain ⟨online, grounded⟩ := alone
    obtain ⟨connector, online⟩ := Option.ne_none_iff_exists'.mp online
    refine Or.inr ⟨.lookUp, ?_⟩
    cases known : handleFor service s.accessor.handles <;>
      simp [Stage.step?, endWait?, online, known, grounded]
  | lookingUp service reply next => exact Or.inr ⟨.answer, _, rfl⟩
  | speaking text reply next => exact Or.inr ⟨.hear, _, rfl⟩
  | finished result => exact Or.inl ⟨result, rfl⟩

theorem alone_goes_on (lone : Lone e.pool past) (alone : Alone first e past)
    (inv : Dispatches e past) (early : NoneLeftEarly e.pool) (busy : ¬Quiet e.pool) :
    ∃ m e', m.drains ∧ e.move? m = some e' := by
  obtain ⟨phase, one⟩ := lone.worker
  have here : e.pool.workers[0]? = some phase := by simp [one]
  have goes := worker_goes_on inv early here
  cases phase with
  | idle =>
    have waiting : e.pool.queue ≠ [] := fun none => busy ⟨none, by simp [one]⟩
    obtain ⟨e', possible⟩ := goes.1 waiting
    exact ⟨.pool (.take 0), e', rfl, possible⟩
  | taken job =>
    obtain ⟨e', possible⟩ := goes
    exact ⟨.pool (.mark 0), e', rfl, possible⟩
  | running job =>
    obtain ⟨stage, found, ends⟩ := goes
    obtain ⟨stage', errands, grounded, -⟩ := alone.stands _ one
    obtain rfl : stage = stage' := by
      simpa [errandOf, errands, Errand.owner] using found.symm
    rcases alone_stage_goes_on (.job job.id) grounded with ⟨result, rfl⟩ | ⟨step, next, possible⟩
    · obtain ⟨e', possible⟩ := ends result rfl
      exact ⟨.pool (.finish 0 result), e', rfl, possible⟩
    · refine ⟨.step (.job job.id) step, ?_⟩
      simp [Move.drains, move?, step?, found, Errand.step?, Errand.owner, possible]
  | ended job result =>
    obtain ⟨e', possible⟩ := goes
    exact ⟨.pool (.record 0), e', rfl, possible⟩
  | recorded job result =>
    obtain ⟨e', possible⟩ := goes
    exact ⟨.pool (.deliver 0), e', rfl, possible⟩
  | gone => exact absurd ⟨goes.2, by simp [one]⟩ busy

end Progress

section Load

/-- A bound on the steps that work takes when no other comes in between. -/
def workload (a : Accessor σ H) : Work H α → Nat
  | .done _ => 1
  | .log _ next => workload a next + 1
  | .acquire service next => workload (a.acquire service).2.2 (next (a.acquire service).1) + 3
  | .speak handle text next => workload (a.speak handle text).2.2 (next (a.speak handle text).1) + 2

def Stage.load (a : Accessor σ H) : Stage H α → Nat
  | .ready work => workload a work
  | .waiting service next => workload (a.acquire service).2.2 (next (a.acquire service).1) + 2
  | .lookingUp service reply next => workload (a.keep service reply) (next (found reply)) + 1
  | .speaking _ reply next => workload a (next reply) + 1
  | .finished _ => 0

def Errand.load (a : Accessor σ H) : Errand H → Nat
  | .batch _ stage => stage.load a
  | .payload _ stage => stage.load a
  | .handle _ stage => stage.load a

def leftToDo : Phase → Nat
  | .taken _ => 4
  | .running _ => 3
  | .ended _ _ => 2
  | .recorded _ _ => 1
  | .idle => 0
  | .gone => 0

def load (e : Engine σ H) : Nat × Nat × Nat :=
  (e.pool.queue.length, e.pool.workers.foldr (leftToDo · + ·) 0,
    e.errands.foldr (Errand.load e.scene.accessor · + ·) 0)

def Lighter : Nat × Nat × Nat → Nat × Nat × Nat → Prop :=
  Prod.Lex (· < ·) (Prod.Lex (· < ·) (· < ·))

variable {owner : Owner} {s s' : Scene σ H} {step : Step} {stage stage' : Stage H α}

theorem stepped_lighter (stepped : Stepped owner s step stage stage' s') :
    stage'.load s'.accessor < stage.load s.accessor := by
  cases stepped with
  | finish result => exact Nat.zero_lt_one
  | log event next => exact Nat.lt_succ_self _
  | offline service next none => simp [Stage.load, workload, Accessor.acquire, none, Scene.enter]
  | known service next handle online kept | learn service next handle online kept =>
    obtain ⟨connector, online⟩ := Option.ne_none_iff_exists'.mp online
    simp [Stage.load, workload, Accessor.acquire, online, kept]
  | wait service next online unknown => exact Nat.lt_succ_self _
  | speak handle text next => exact Nat.lt_succ_self _
  | lookUp service next connector online unknown free =>
    simp only [Stage.load, Accessor.acquire, online, unknown]
    exact Nat.lt_succ_self _
  | answer service reply next => exact Nat.lt_succ_self _
  | hear text reply next => exact Nat.lt_succ_self _

theorem lighter_wf : WellFounded Lighter :=
  WellFounded.prod_lex wellFounded_lt (WellFounded.prod_lex wellFounded_lt wellFounded_lt)

variable {e e' : Engine σ H} {m : Move} {past : List Entry} {first : Accessor σ H}

theorem alone_step_lighter {errand new : Errand H} {scene : Scene σ H} (lone : Lone e.pool past)
    (alone : Alone first e past) (found : errandOf owner e.errands = some errand)
    (stepped : errand.step? e.scene step = some (new, scene)) :
    (replaceErrand new e.errands).foldr (Errand.load scene.accessor · + ·) 0 <
      e.errands.foldr (Errand.load e.scene.accessor · + ·) 0 := by
  obtain ⟨here, -⟩ := errand_of_some found
  obtain ⟨phase, one⟩ := lone.worker
  have stands := alone.stands phase one
  have busy : e.errands ≠ [] := List.ne_nil_of_mem here
  cases phase with
  | running job =>
    obtain ⟨stage, errands, -, -⟩ := stands
    obtain rfl : errand = .batch job.id stage := by simpa [errands] using here
    cases errand_stepped stepped with
    | batch _ _ later moved =>
      simpa [replaceErrand, errands, Errand.owner, Errand.load] using stepped_lighter moved
  | ended job result => exact absurd stands.1 busy
  | _ => exact absurd stands.errands busy

theorem worker_lighter {w : Nat} {before after : Phase} {pool : Pool} {errands : List (Errand H)}
    (lone : Lone e.pool past) (found : e.pool.workers[w]? = some before)
    (workers : pool.workers = e.pool.workers.set w after) (queue : pool.queue = e.pool.queue)
    (less : leftToDo after < leftToDo before) :
    Lighter (load { e with pool := pool, errands := errands }) (load e) := by
  obtain ⟨phase, one⟩ := lone.worker
  obtain ⟨rfl, rfl⟩ := only_worker one found
  simp only [load, queue]
  exact .right _ (.left _ _ (by simpa [workers, one] using less))

theorem drain_lighter (moved : Moved e m e') (drains : m.drains) (lone : Lone e.pool past)
    (alone : Alone first e past) : Lighter (load e') (load e) := by
  cases moved with
  | begin w job pool taken acted =>
    simp only [Pool.act?, mark?, taken, Option.some.injEq] at acted
    have workers : pool.workers = e.pool.workers.set w (.running job) := by rw [← acted]; rfl
    exact worker_lighter lone taken workers (by rw [← acted]; rfl) (Nat.lt_succ_self _)
  | collect w result job pool running ended acted =>
    simp only [Pool.act?, finish?, running, Option.some.injEq] at acted
    have workers : pool.workers = e.pool.workers.set w (.ended job result) := by
      rw [← acted]; rfl
    exact worker_lighter lone running workers (by rw [← acted]; rfl) (Nat.lt_succ_self _)
  | other action pool plain acted =>
    have step := act_step acted
    generalize entries e.pool action = es at step
    cases step with
    | mark w => exact absurd rfl (plain w).1
    | finish w job result => exact absurd rfl ((plain w).2 result)
    | take w job rest idle head =>
      exact .left _ _ (by simp [head])
    | record w job result found => exact worker_lighter lone found rfl rfl (Nat.lt_succ_self _)
    | deliver w job result found => exact worker_lighter lone found rfl rfl (Nat.lt_succ_self _)
    | _ => cases drains
  | request | call | giveUp => cases drains
  | step owner step errand new scene found stepped =>
    exact .right _ (.right _ (alone_step_lighter lone alone found stepped))

theorem draining_ends (lone : Lone e.pool past) (alone : Alone first e past) :
    Acc (fun after before : Engine σ H => ∃ m : Move, m.drains ∧ before.move? m = some after)
      e := by
  induction weight : load e using lighter_wf.induction generalizing e past with
  | _ weight ih =>
    subst weight
    refine Acc.intro e ?_
    rintro after ⟨m, drains, move⟩
    have moved := move_moved move
    have queued : m.isQueued := by
      cases m <;> first | rfl | cases drains
    have pool : Lone after.pool (past ++ happened e m) := by
      have acted := moved_pool moved
      cases m with
      | pool action => exact lone_step (act_step acted) lone
      | step owner step => simpa [happened, acted] using lone
      | request | call | giveUp => cases drains
    exact ih _ (drain_lighter moved drains lone alone) pool (move_alone moved queued lone alone) rfl

end Load

/-- What one worker has made of the bodies that arrived, against the same bodies dispatched one
    after another: the same are refused, for the same reasons, and the others have the same reports;
    what the robot has seen so far is the beginning of what it sees there, and all of it once
    nothing is left to do. That the worker can always go on, and not for ever, makes this come
    about. -/
structure Agrees (service : String) (accessor : Accessor σ H) (retained : Nat)
    (arrivals : List (Uuid × Bytes)) (results : List (Job × Ended Report)) (e : Engine σ H)
    (story : List Entry) : Prop where
  matched : Matched arrivals (ranBodies (.standard service) accessor arrivals).1 results
  recorded : recordedIn story <+: results
  tracked : ∀ before job result after, story = before ++ .recorded job result :: after →
    ∃ report, result = .returned report ∧ e.pool.tracker.get? job.id =
      if (recordedIds after).length < retained then some (.completed report) else none
  tickets : ∀ job result, (job, result) ∈ deliveredIn story → job.id ∉ droppedIn story →
    ∃ report, result = .returned report ∧ ticketOf job.id e.pool.tickets = some (.ready report)
  seen : calls e.scene.past.reverse <+: calls (ranBodies (.standard service) accessor arrivals).2.1
  quiet : Quiet e.pool → recordedIn story = results ∧
    (∀ job report, (job, .returned report) ∈ results → job.id ∉ droppedIn story →
      ticketOf job.id e.pool.tickets = some (.ready report)) ∧
    calls e.scene.past.reverse = calls (ranBodies (.standard service) accessor arrivals).2.1 ∧
    e.scene.accessor = (ranBodies (.standard service) accessor arrivals).2.2
  goesOn : ¬Quiet e.pool → ∃ m e', m.drains ∧ e.move? m = some e'
  ends : Acc (fun after before : Engine σ H => ∃ m : Move, m.drains ∧ before.move? m = some after) e

section Agreement
variable {first : Accessor σ H} {registry : Registry H} {e : Engine σ H} {past : List Entry}

theorem ran_append (registry : Registry H) (first : Accessor σ H) (jobs more : List Job) :
    (ranJobs registry first jobs).1 <+: (ranJobs registry first (jobs ++ more)).1 ∧
      (ranJobs registry first jobs).2.1 <+: (ranJobs registry first (jobs ++ more)).2.1 := by
  simp only [ranJobs, List.map_append, run_all_append]
  exact ⟨List.prefix_append _ _, List.prefix_append _ _⟩

theorem lone_order (acc : Accounts e.pool past) (lone : Lone e.pool past) :
    acceptedIn past = (recordedIn past).map Prod.fst ++ e.pool.workers.filterMap Phase.running? ++
      e.pool.workers.filterMap Phase.waiting? ++ e.pool.queue := by
  rw [acc.queued, lone.waiting, lone.running]

theorem alone_recorded (acc : Accounts e.pool past) (lone : Lone e.pool past)
    (alone : Alone first e past) :
    recordedIn past <+: (acceptedIn past).zip (ranJobs e.registry first (acceptedIn past)).1 := by
  have pairs : recordedIn past = ((recordedIn past).map Prod.fst).zip
      (ranJobs e.registry first ((recordedIn past).map Prod.fst)).1 := by
    rw [← alone.results, ← List.unzip_fst, ← List.unzip_snd, List.zip_unzip]
  have length : ((recordedIn past).map Prod.fst).length =
      (ranJobs e.registry first ((recordedIn past).map Prod.fst)).1.length := by
    simp [ranJobs, run_all_length]
  rw [lone_order acc lone, List.append_assoc, List.append_assoc]
  obtain ⟨more, same⟩ := (ran_append e.registry first
    ((recordedIn past).map Prod.fst) (e.pool.workers.filterMap Phase.running? ++
      (e.pool.workers.filterMap Phase.waiting? ++ e.pool.queue))).1
  rw [← same, List.zip_append length, ← pairs]
  exact List.prefix_append _ _

theorem stage_run_onto_past (stage : Stage H α) (seen : List (Happening H)) (a : Accessor σ H) :
    ∃ more, (stage.runOnto seen a).2.1 = more ++ seen := by
  cases stage with
  | finished result => exact ⟨[], rfl⟩
  | _ =>
    simp only [Stage.runOnto]
    rw [run_onto_eq]
    exact ⟨_, rfl⟩

theorem ran_past {jobs : List Job} {job : Job} :
    (ranJobs registry first (jobs ++ [job])).2.1 = ((dispatch registry job.batch).runOnto
      (ranJobs registry first jobs).2.1.reverse (ranJobs registry first jobs).2.2).2.1.reverse := by
  rw [ran_snoc, run_onto_eq]
  simp

/-- What has happened so far is the beginning of what the jobs do one after another. -/
theorem alone_seen (acc : Accounts e.pool past) (lone : Lone e.pool past)
    (alone : Alone first e past) :
    e.scene.past.reverse <+: (ranJobs e.registry first (acceptedIn past)).2.1 := by
  obtain ⟨phase, one⟩ := lone.worker
  have stands := alone.stands phase one
  rw [lone_order acc lone, List.append_assoc, one]
  cases phase with
  | running job =>
    obtain ⟨stage, -, -, same⟩ := stands
    obtain ⟨more, grown⟩ := stage_run_onto_past stage e.scene.past e.scene.accessor
    refine List.IsPrefix.trans ?_ (ran_append _ _ ((recordedIn past).map Prod.fst ++ [job]) _).2
    rw [ran_past, ← same, grown, List.reverse_append]
    exact List.prefix_append _ _
  | ended job result =>
    obtain ⟨-, -, same⟩ := stands
    refine List.IsPrefix.trans ?_ (ran_append _ _ ((recordedIn past).map Prod.fst ++ [job]) _).2
    have whole : (ranJobs e.registry first ((recordedIn past).map Prod.fst ++ [job])).2.1 =
        e.scene.past.reverse := by rw [ran_past, ← same]
    exact whole ▸ List.prefix_rfl
  | idle | taken | recorded | gone =>
    rw [stands.past, List.reverse_reverse, List.append_assoc]
    exact (ran_append _ _ _ _).2

theorem alone_quiet (acc : Accounts e.pool past) (lone : Lone e.pool past)
    (alone : Alone first e past) (quiet : Quiet e.pool) :
    (recordedIn past).map Prod.fst = acceptedIn past ∧ (recordedIn past).Perm (deliveredIn past) ∧
      e.scene.past.reverse = (ranJobs e.registry first (acceptedIn past)).2.1 ∧
      e.scene.accessor = (ranJobs e.registry first (acceptedIn past)).2.2 := by
  obtain ⟨phase, one⟩ := lone.worker
  obtain ⟨drained, still⟩ := quiet
  have stands := alone.stands phase one
  have order := lone_order acc lone
  have recorded := acc.recorded
  rw [drained, one] at order
  rw [one] at recorded
  rcases still phase (by simp [one]) with rfl | rfl
  all_goals
    have all : acceptedIn past = (recordedIn past).map Prod.fst := by
      simpa [List.filterMap_cons, Phase.running?, Phase.waiting?] using order
    rw [all]
    refine ⟨rfl, by simpa [List.filterMap_cons, Phase.recorded?] using recorded, ?_,
      stands.accessor⟩
    rw [stands.past, List.reverse_reverse]

theorem queue_agrees_with_direct_dispatch {service : String} {accessor : Accessor σ H}
    {capacity retained : Nat} {moves : List Move} {arrivals : List (Uuid × Bytes)}
    (run : (opening (.standard service) accessor 1 capacity retained).run? moves = some e)
    (fresh : (issued (poolActions moves)).Nodup) (queued : ∀ m ∈ moves, m.isQueued)
    (fed : acceptedIn (chronicle (Pool.start 1 capacity retained) (poolActions moves)) =
      jobsOf arrivals) :
    ∃ results, Agrees service accessor retained arrivals results e
      (chronicle (Pool.start 1 capacity retained) (poolActions moves)) := by
  have pool := run_pool run
  have acc := run_accounts pool
  have ids := (entered_chronicle pool).symm ▸ fresh
  have lone := run_lone (Nat.le_refl 1) pool
  have alone := run_alone (Nat.le_refl 1) run queued
  have tickets := run_tickets pool fresh
  have registry : e.registry = .standard service := run_registry run
  obtain ⟨matched, called, left⟩ := payloads_matched service accessor arrivals
  have recorded := alone_recorded acc lone alone
  have seen := alone_seen acc lone alone
  have quiet := alone_quiet acc lone alone
  rw [fed, registry] at recorded seen quiet
  have returned : ∀ job result, (job, result) ∈ recordedIn
      (chronicle (Pool.start 1 capacity retained) (poolActions moves)) →
      ∃ report, result = .returned report :=
    fun _ _ member => matched_returned matched _ (recorded.subset member)
  refine ⟨(jobsOf arrivals).zip (ranJobs (.standard service) accessor (jobsOf arrivals)).1, ?_⟩
  constructor
  case matched => exact matched
  case recorded => exact recorded
  case tracked =>
    intro before job result after story
    obtain ⟨report, rfl⟩ := returned job result (by simp [story, recordedIn])
    refine ⟨report, rfl, ?_⟩
    rw [recorded_told (run_tracks pool fresh) (recorded_nodup acc ids) story,
      (run_dimensions pool).kept]
    rfl
  case tickets =>
    intro job result delivered kept
    obtain ⟨report, rfl⟩ := returned _ _ (delivered_recorded acc delivered)
    exact ⟨report, rfl, tickets.told job _ delivered kept⟩
  case seen =>
    rw [called]
    exact seen.filter _
  case quiet =>
    intro idle
    obtain ⟨jobs, delivered, all, accessor⟩ := quiet idle
    have complete := recorded.eq_of_length_le (by
      rw [List.length_zip, ← jobs, List.length_map]
      exact Nat.min_le_left _ _)
    refine ⟨complete, ?_, by rw [called, all], accessor.trans left.symm⟩
    intro job report member kept
    rw [← complete] at member
    exact tickets.told job _ (delivered.mem_iff.mp member) kept
  case goesOn =>
    exact alone_goes_on lone alone (run_dispatches run fresh) (run_none_left_early pool)
  case ends => exact draining_ends lone alone

end Agreement

def threeBodies : List (Uuid × Bytes) :=
  [(Uuid.ofNat 1, Text.utf8 "[]"),
    (Uuid.ofNat 2, Text.utf8
      "\x7b\"commands\":[\x7b\"type\":\"say_something\",\"args\":[\"one\"]\x7d]\x7d"),
    (Uuid.ofNat 3, Text.utf8 "\x7b\"commands\":[\x7b\x7d]\x7d")]

/-- The second batch comes in while the first is under way, for which the robot panics. -/
def drainedTwice : List Move :=
  [.pool (.enter (Uuid.ofNat 2) ⟨[⟨.known .saySomething, [.string "one"]⟩], by simp⟩),
    .pool (.track 0), .pool (.send 0), .pool (.take 0), .pool (.mark 0),
    .step (.job (Uuid.ofNat 2)) .advance, .step (.job (Uuid.ofNat 2)) .advance,
    .pool (.enter (Uuid.ofNat 3) untagged), .pool (.track 1), .pool (.send 1),
    .step (.job (Uuid.ofNat 2)) .lookUp, .step (.job (Uuid.ofNat 2)) .answer,
    .step (.job (Uuid.ofNat 2)) .advance, .step (.job (Uuid.ofNat 2)) .advance,
    .step (.job (Uuid.ofNat 2)) .hear, .step (.job (Uuid.ofNat 2)) .advance,
    .step (.job (Uuid.ofNat 2)) .advance, .step (.job (Uuid.ofNat 2)) .advance,
    .pool (.finish 0
      (.returned ⟨[⟨0, .known .saySomething, .failed "handler panicked: over"⟩]⟩)),
    .pool (.record 0), .pool (.deliver 0), .pool (.take 0), .pool (.mark 0),
    .step (.job (Uuid.ofNat 3)) .advance, .step (.job (Uuid.ofNat 3)) .advance,
    .step (.job (Uuid.ofNat 3)) .advance, .step (.job (Uuid.ofNat 3)) .advance,
    .pool (.finish 0 (.returned ⟨[⟨0, .unknown none, .unknownType⟩]⟩)),
    .pool (.record 0), .pool (.deliver 0)]

theorem queue_agrees_on_three_bodies : ∃ results e,
    (opening (.standard "tts") (.online (Robot.scripted ⟨[], [.panics (.text "over")]⟩) .fresh)
      1 1 1).run? drainedTwice = some e ∧
    Agrees "tts" (.online (Robot.scripted ⟨[], [.panics (.text "over")]⟩) .fresh) 1 threeBodies
      results e (chronicle (Pool.start 1 1 1) (poolActions drainedTwice)) ∧ Quiet e.pool := by
  have run : (opening (.standard "tts")
      (.online (Robot.scripted ⟨[], [.panics (.text "over")]⟩) .fresh) 1 1 1).run?
      drainedTwice = some _ := rfl
  have fed : acceptedIn (chronicle (Pool.start 1 1 1) (poolActions drainedTwice)) =
      jobsOf threeBodies := rfl
  obtain ⟨results, agrees⟩ :=
    queue_agrees_with_direct_dispatch run (by decide) (by decide) fed
  exact ⟨results, _, run, agrees, rfl, fun phase idle => Or.inl (List.mem_singleton.mp idle)⟩

end CommandGateway.Engine
