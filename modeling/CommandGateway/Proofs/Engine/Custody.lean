import CommandGateway.Proofs.Engine.Dispatches

/- No batch is lost, and none is run twice. From the call that brings a batch to the ticket that
   learns what became of it, every batch is in one place, and no worker stops on the way. -/
namespace CommandGateway.Engine

open Pool

variable {σ H : Type}

def Possible (e : Engine σ H) (action : Action) : Prop := ∃ e', e.act? action = some e'

/-- A worker can always go on, whatever became of the dispatch before, unless it waits for a
    dispatch to end or for a batch to come. It is gone only when none will come. -/
def GoesOn (e : Engine σ H) (w : Nat) : Phase → Prop
  | .idle => (e.pool.queue ≠ [] → Possible e (.take w)) ∧ (Dry e.pool → Possible e (.leave w))
  | .taken _ => Possible e (.mark w)
  | .running job => ∃ stage, errandOf (.job job.id) e.errands = some (.batch job.id stage) ∧
      ∀ result, stage = .finished result → Possible e (.finish w result)
  | .ended _ _ => Possible e (.record w)
  | .recorded _ _ => Possible e (.deliver w)
  | .gone => Dry e.pool

structure Custody (e : Engine σ H) (story : List Entry) : Prop where
  accounts : Accounts e.pool story
  order : acceptedIn story = takenIn story ++ e.pool.queue
  once : ((dispatchedIn story).map Job.id).Nodup
  accepted : ∀ job ∈ dispatchedIn story, job ∈ acceptedIn story
  refused : ∀ id ∈ refusedIn story, id ∉ (dispatchedIn story).map Job.id
  owners : (e.errands.map Errand.owner).Nodup
  running : ∀ id, Owner.job id ∈ e.errands.map Errand.owner ↔
    ∃ (w : Nat) (job : Job), e.pool.workers[w]? = some (.running job) ∧ job.id = id
  results : ∀ job result, (job, result) ∈ recordedIn story →
    (dispatch e.registry job.batch).canEnd result
  workers : ∀ (w : Nat) (phase : Phase), e.pool.workers[w]? = some phase → GoesOn e w phase
  lone : e.pool.shutdowns = [.returned] → 0 ∈ tookOverIn story
  drained : ∀ call ∈ tookOverIn story, e.pool.shutdowns[call]? = some .returned →
    Drained e.pool story

section Workers
variable {e : Engine σ H} {past : List Entry} {w : Nat} {phase : Phase}

theorem plain_possible {action : Action} {pool : Pool} (plain : Plain action)
    (acted : e.pool.act? action = some pool) : Possible e action := by
  refine ⟨{ e with pool := pool }, ?_⟩
  cases action with
  | mark w => exact absurd rfl (plain w).1
  | finish w result => exact absurd rfl ((plain w).2 result)
  | _ => simp only [act?, acted]

theorem idle_goes_on (idle : e.pool.workers[w]? = some .idle) : GoesOn e w .idle := by
  constructor
  · intro waiting
    obtain ⟨job, rest, head⟩ := List.exists_cons_of_ne_nil waiting
    have acted : e.pool.act? (.take w) =
        some ({ e.pool with queue := rest }.setWorker w (.taken job)) := by
      simp only [Pool.act?, take?, idle, head]
    exact plain_possible (fun _ => by simp) acted
  · rintro ⟨shut, drained⟩
    have acted : e.pool.act? (.leave w) = some (e.pool.setWorker w .gone) := by
      simp [Pool.act?, leave?, idle, drained, shut]
    exact plain_possible (fun _ => by simp) acted

theorem running_goes_on {job : Job} (inv : Dispatches e past)
    (running : e.pool.workers[w]? = some (.running job)) : GoesOn e w (.running job) := by
  obtain ⟨stage, member⟩ := inv.served w job running
  have found : errandOf (.job job.id) e.errands = some (.batch job.id stage) :=
    errand_of_mem inv.owners member
  refine ⟨stage, found, ?_⟩
  rintro result rfl
  simp [Possible, act?, Pool.act?, finish?, running, found, Errand.report?]

theorem worker_goes_on (inv : Dispatches e past) (early : NoneLeftEarly e.pool)
    (here : e.pool.workers[w]? = some phase) : GoesOn e w phase := by
  cases phase with
  | idle => exact idle_goes_on here
  | taken job => simp [GoesOn, Possible, act?, Pool.act?, mark?, here]
  | running job => exact running_goes_on inv here
  | ended job result => simp [GoesOn, Possible, act?, Pool.act?, record?, here]
  | recorded job result => simp [GoesOn, Possible, act?, Pool.act?, deliver?, here]
  | gone => exact early w here

end Workers

theorem no_batch_lost_or_run_twice {registry : Registry H} {accessor : Accessor σ H}
    {workers capacity retained : Nat} {moves : List Move} {e : Engine σ H}
    (run : (opening registry accessor workers capacity retained).run? moves = some e)
    (fresh : (issued (poolActions moves)).Nodup) :
    e.registry = registry ∧
    Custody e (chronicle (Pool.start workers capacity retained) (poolActions moves)) := by
  have pool : (Pool.start workers capacity retained).run? (poolActions moves) = some e.pool :=
    run_pool run
  have acc := run_accounts pool
  have inv := run_dispatches run fresh
  have ids : (enteredIn (chronicle (Pool.start workers capacity retained)
      (poolActions moves))).Nodup := (entered_chronicle pool).symm ▸ fresh
  refine ⟨run_registry run, ?_⟩
  constructor
  case accounts => exact acc
  case order => exact acc.queued
  case once => exact dispatched_nodup acc ids
  case accepted => exact fun job => dispatched_accepted acc
  case refused =>
    intro id refused dispatched
    exact refused_not_accepted acc ids refused (dispatched_id_accepted acc dispatched)
  case owners => exact inv.owners
  case running =>
    intro id
    rw [job_owner_iff]
    constructor
    · rintro ⟨stage, member⟩
      obtain ⟨w, job, running, same, -⟩ := inv.serves id stage member
      exact ⟨w, job, running, same⟩
    · rintro ⟨w, job, running, rfl⟩
      exact inv.served w job running
  case results => exact inv.recorded
  case workers => exact fun w phase here => worker_goes_on inv (run_none_left_early pool) here
  case lone => exact only_shutdown_first (run_handover pool)
  case drained => exact fun call first returned => first_return_drains pool fresh first returned

def rash : Registry Unit := Registry.empty.register .saySomething fun _ => .panicked .other

/-- One worker runs a batch whose dispatch is stopped by a panic, and then goes on with the next
    one, which came in before the shutdown. -/
def panicThenShutdown : List Move :=
  [.pool (.enter (Uuid.ofNat 1) ⟨[⟨.known .saySomething, []⟩], by simp⟩),
    .pool (.track 0), .pool (.send 0),
    .pool (.enter (Uuid.ofNat 2) untagged), .pool (.track 1), .pool (.send 1),
    .pool .close, .pool (.join 0),
    .pool (.take 0), .pool (.mark 0),
    .step (.job (Uuid.ofNat 1)) .advance, .step (.job (Uuid.ofNat 1)) .advance,
    .pool (.finish 0 (.panicked .other)), .pool (.record 0), .pool (.deliver 0),
    .pool (.take 0), .pool (.mark 0),
    .step (.job (Uuid.ofNat 2)) .advance, .step (.job (Uuid.ofNat 2)) .advance,
    .step (.job (Uuid.ofNat 2)) .advance, .step (.job (Uuid.ofNat 2)) .advance,
    .pool (.finish 0 (.returned ⟨[⟨0, .unknown none, .unknownType⟩]⟩)),
    .pool (.record 0), .pool (.deliver 0), .pool (.leave 0), .pool (.return 0)]

theorem no_batch_lost_after_panic : ∃ e,
    (opening rash (.offline ()) 1 2 1).run? panicThenShutdown = some e ∧
    Custody e (chronicle (Pool.start 1 2 1) (poolActions panicThenShutdown)) ∧
    Drained e.pool (chronicle (Pool.start 1 2 1) (poolActions panicThenShutdown)) := by
  have run : (opening rash (.offline ()) 1 2 1).run? panicThenShutdown = some _ := rfl
  have custody := (no_batch_lost_or_run_twice run (by decide)).2
  exact ⟨_, run, custody, custody.drained 0 (custody.lone rfl) rfl⟩

end CommandGateway.Engine
