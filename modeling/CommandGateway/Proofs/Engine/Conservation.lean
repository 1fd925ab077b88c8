import CommandGateway.Proofs.Engine.Custody
import CommandGateway.Proofs.Engine.Reception
import CommandGateway.Proofs.Engine.Speech
import CommandGateway.Proofs.Pool.Census

/- No worker rests while a batch waits. When nothing can go on by itself, a worker either stands in
   line for the queue or runs a job whose errand is in a call to the robot; and as long as a batch
   is queued nobody stands in line, since the first one would take it. That such a state is always
   reached, whatever was brought, is shown of the rota in `Settling`. -/
namespace CommandGateway.Engine

open Pool

variable {σ H : Type}

/-- An errand that only the robot's answer can bring on, to its own call or to another's lookup of
    the service it wants. -/
def InCall (s : Scene σ H) : Standing → Prop
  | .speaking _ => True
  | .lookingUp _ _ => True
  | .waiting service => service ∈ s.inFlight
  | _ => False

section Settled
variable {r : Reception σ H} {past : List Entry} {w : Nat} {phase : Phase} {job : Job}

theorem settled_move (settled : r.Settled) {m : Move} (own : (Reception.Turn.move m).isOwn)
    (may : mayMove r.line m) : r.engine.move? m = none := by
  simpa [Reception.turn?, may] using settled (.move m) own

theorem settled_impossible (settled : r.Settled) {a : Action}
    (own : (Reception.Turn.move (.pool a)).isOwn) (may : mayMove r.line (.pool a)) :
    ¬ Possible r.engine a := by
  rintro ⟨e, acted⟩
  have none := settled_move settled own may
  rw [Engine.move?, acted] at none
  cases none

theorem settled_still (settled : r.Settled) {owner : Owner} {step : Step}
    (own : (Reception.Turn.move (.step owner step)).isOwn) : ¬ CanStep r.engine owner step := by
  rintro ⟨e, stepped⟩
  have none := settled_move settled own rfl
  rw [Engine.move?, stepped] at none
  cases none

theorem idle_asks (settled : r.Settled) (idle : r.engine.pool.workers[w]? = some .idle) :
    w ∈ r.line := by
  by_contra out
  have none := settled (.ask w) rfl
  simp [Reception.turn?, idle, isIdle, out] at none

theorem lined_idle (settled : r.Settled) (inv : InLine r.line r.engine.pool.workers)
    (here : w ∈ r.line) : r.engine.pool.workers[w]? = some .idle := by
  cases line : r.line with
  | nil => simp [line] at here
  | cons first rest =>
    rw [line] at here
    rcases List.mem_cons.mp here with rfl | behind
    · obtain ⟨phase, found⟩ : ∃ phase, r.engine.pool.workers[w]? = some phase :=
        ⟨_, List.getElem?_eq_getElem (inv.known w (by simp [line]))⟩
      by_cases idle : isIdle phase
      · rw [found, is_idle_iff.mp idle]
      · have none := settled (.pass w) rfl
        simp [Reception.turn?, found, idle, line] at none
    · exact inv.idle w (by simpa [line] using behind)

theorem settled_worker (settled : r.Settled) (inv : InLine r.line r.engine.pool.workers)
    (served : Dispatches r.engine past) (early : NoneLeftEarly r.engine.pool)
    (accepting : r.engine.pool.accepting = true) (here : r.engine.pool.workers[w]? = some phase) :
    phase = .idle ∨ ∃ job, phase = .running job := by
  have goes := worker_goes_on served early here
  cases phase with
  | idle => exact .inl rfl
  | running job => exact .inr ⟨job, rfl⟩
  | taken job =>
    have out : w ∉ r.line := fun lined => by simp [lined_idle settled inv lined] at here
    exact absurd goes (settled_impossible settled rfl (by simpa [mayMove] using out))
  | ended job result => exact absurd goes (settled_impossible settled rfl rfl)
  | recorded job result => exact absurd goes (settled_impossible settled rfl rfl)
  | gone =>
    have shut : r.engine.pool.isOpen = false := (early w here).1
    simp [isOpen, accepting] at shut

theorem waiting_unlined (settled : r.Settled) (inv : InLine r.line r.engine.pool.workers)
    (waiting : r.engine.pool.queue ≠ []) : r.line = [] := by
  cases line : r.line with
  | nil => rfl
  | cons first rest =>
    have idle := lined_idle settled inv (w := first) (by simp [line])
    have takes := (idle_goes_on idle).1 waiting
    exact absurd takes (settled_impossible settled rfl (by simp [mayMove, line]))

theorem settled_dispatch (settled : r.Settled) (online : Online r.engine)
    (served : Dispatches r.engine past)
    (running : r.engine.pool.workers[w]? = some (.running job)) :
    ∃ errand, errandOf (.job job.id) r.engine.errands = some errand ∧
      InCall r.engine.scene errand.standing := by
  obtain ⟨stage, found, ends⟩ := running_goes_on served running
  refine ⟨_, found, ?_⟩
  cases stage with
  | ready work => exact absurd (errand_can_step online found rfl nofun) (settled_still settled rfl)
  | waiting service next =>
    by_contra free
    refine absurd (errand_can_step online found rfl ?_) (settled_still settled rfl)
    rintro name ⟨⟩
    exact free
  | lookingUp | speaking => trivial
  | finished result => exact absurd (ends result rfl) (settled_impossible settled rfl rfl)

end Settled

section Counts
variable {workers : List Phase}

theorem none_taken (all : ∀ phase ∈ workers, phase = .idle ∨ ∃ job, phase = .running job) :
    workers.filterMap Phase.waiting? = [] := by
  refine List.filterMap_eq_nil_iff.mpr fun phase member => ?_
  rcases all phase member with rfl | ⟨job, rfl⟩ <;> rfl

theorem all_running_length (all : ∀ phase ∈ workers, ∃ job, phase = .running job) :
    (workers.filterMap Phase.running?).length = workers.length := by
  refine List.filterMap_length_eq_length.mpr fun phase member => ?_
  obtain ⟨job, rfl⟩ := all phase member
  rfl

end Counts

/-- What is settled when nothing can go on by itself: how many of the accepted jobs run, which of
    them wait, who stands in line for the queue, and what the running dispatches wait for. -/
structure Conserving (workers : Nat) (r : Reception σ H) (story : List Entry) : Prop where
  running : (acceptedIn story).countP (fun job =>
      r.engine.pool.tracker.get? job.id = some .running) =
    min (max workers 1) ((acceptedIn story).countP fun job => job.id ∉ recordedIds story)
  order : (acceptedIn story).Pairwise fun earlier later =>
    r.engine.pool.tracker.get? earlier.id = some .queued →
      r.engine.pool.tracker.get? later.id ≠ some .running ∧ later.id ∉ recordedIds story
  line : ∀ w, w ∈ r.line ↔ r.engine.pool.workers[w]? = some .idle
  busy : r.engine.pool.queue ≠ [] → r.line = [] ∧
    ∀ w < max workers 1, ∃ job, r.engine.pool.workers[w]? = some (.running job)
  blocked : ∀ (w : Nat) (job : Job), r.engine.pool.workers[w]? = some (.running job) →
    ∃ errand, errandOf (.job job.id) r.engine.errands = some errand ∧
      InCall r.engine.scene errand.standing

/-- What every run keeps of its pool, its dispatches and its line. -/
structure WellRun (workers : Nat) (r : Reception σ H) (story : List Entry) : Prop where
  accounts : Accounts r.engine.pool story
  tracks : Tracks r.engine.pool story
  once : (enteredIn story).Nodup
  served : Dispatches r.engine story
  early : NoneLeftEarly r.engine.pool
  online : Online r.engine
  lined : InLine r.line r.engine.pool.workers
  count : r.engine.pool.workers.length = max workers 1

section Settles
variable {workers : Nat} {r : Reception σ H} {story : List Entry}

theorem settled_phases (kept : WellRun workers r story)
    (accepting : r.engine.pool.accepting = true) (settled : r.Settled) :
    ∀ phase ∈ r.engine.pool.workers, phase = .idle ∨ ∃ job, phase = .running job := by
  intro phase member
  obtain ⟨w, found⟩ := List.getElem?_of_mem member
  exact settled_worker settled kept.lined kept.served kept.early accepting found

/-- Whoever is idle asks for the queue, and would have been passed the batch that waits. -/
theorem waiting_all_busy (kept : WellRun workers r story)
    (accepting : r.engine.pool.accepting = true) (settled : r.Settled)
    (waiting : r.engine.pool.queue ≠ []) :
    ∀ phase ∈ r.engine.pool.workers, ∃ job, phase = .running job := by
  intro phase member
  rcases settled_phases kept accepting settled phase member with rfl | running
  · obtain ⟨w, found⟩ := List.getElem?_of_mem member
    have lined := idle_asks settled found
    simp [waiting_unlined settled kept.lined waiting] at lined
  · exact running

theorem settled_conserving (kept : WellRun workers r story)
    (accepting : r.engine.pool.accepting = true) (settled : r.Settled) :
    Conserving workers r story := by
  have none := none_taken (settled_phases kept accepting settled)
  have busy := waiting_all_busy kept accepting settled
  obtain ⟨acc, tracks, ids, served, -, online, inv, count⟩ := kept
  constructor
  case running =>
    rw [running_count acc tracks ids none, unfinished_count acc tracks ids none, ← count]
    cases queue : r.engine.pool.queue with
    | nil => simp [List.length_filterMap_le]
    | cons job rest =>
      rw [all_running_length (busy (by simp [queue]))]
      simp
  case order => exact queued_last acc tracks ids none
  case line => exact fun w => ⟨lined_idle settled inv, idle_asks settled⟩
  case busy =>
    intro waiting
    refine ⟨waiting_unlined settled inv waiting, fun w known => ?_⟩
    have found := List.getElem?_eq_getElem (count.symm ▸ known)
    obtain ⟨job, running⟩ := busy waiting _ (List.getElem_mem (count.symm ▸ known))
    exact ⟨job, running ▸ found⟩
  case blocked => exact fun w job => settled_dispatch settled online served

end Settles

section Runs
variable {registry : Registry H} {accessor : Accessor σ H} {workers capacity retained : Nat}
  {turns : List Reception.Turn} {r : Reception σ H}

theorem run_well
    (run : (openReception registry accessor workers capacity retained).run? turns = some r)
    (fresh : (issued (poolActions (movesOf turns))).Nodup) :
    WellRun workers r
      (chronicle (Pool.start workers capacity retained) (poolActions (movesOf turns))) := by
  have moves := run_moves run
  have pool := run_pool moves
  constructor
  case accounts => exact run_accounts pool
  case tracks => exact run_tracks pool fresh
  case once => exact (entered_chronicle pool).symm ▸ fresh
  case served => exact run_dispatches moves fresh
  case early => exact run_none_left_early pool
  case online => exact run_online moves fresh
  case lined => exact run_in_line run
  case count => exact (run_dimensions pool).count

/-- In every settled state before a shutdown the pool has as many jobs running as it can. -/
theorem pool_is_work_conserving
    (run : (openReception registry accessor workers capacity retained).run? turns = some r)
    (fresh : (issued (poolActions (movesOf turns))).Nodup)
    (accepting : r.engine.pool.accepting = true) (settled : r.Settled) :
    Conserving workers r
      (chronicle (Pool.start workers capacity retained) (poolActions (movesOf turns))) := by
  have kept := run_well run fresh
  exact settled_conserving kept accepting settled

end Runs

/-- Two workers and three batches. One of those that run is in a lookup, the other one waits for the
    answer to it; the third batch is queued. -/
def twoBlocked : List Reception.Turn :=
  let first : Owner := .job (Uuid.ofNat 1)
  let second : Owner := .job (Uuid.ofNat 2)
  [.ask 1, .ask 0,
    .move (.pool (.enter (Uuid.ofNat 1) (sayingAll ["one"] (List.cons_ne_nil _ _)))),
    .move (.pool (.track 0)), .move (.pool (.send 0)),
    .move (.pool (.enter (Uuid.ofNat 2) (sayingAll ["two"] (List.cons_ne_nil _ _)))),
    .move (.pool (.track 1)), .move (.pool (.send 1)),
    .move (.pool (.enter (Uuid.ofNat 3) (sayingAll ["three"] (List.cons_ne_nil _ _)))),
    .move (.pool (.track 2)), .move (.pool (.send 2)),
    .move (.pool (.take 1)), .pass 1, .move (.pool (.take 0)), .move (.pool (.mark 1)),
    .pass 0, .move (.pool (.mark 0)),
    .move (.step first .advance), .move (.step first .advance),
    .move (.step second .advance), .move (.step second .advance),
    .move (.step first .lookUp)]

theorem pool_is_work_conserving_for_three : ∃ r,
    (openReception (.standard "tts") (.online (Robot.recorder none none) (.fresh 0)) 2 3 1).run?
      twoBlocked = some r ∧
    r.Settled ∧ r.engine.pool.queue ≠ [] ∧
    Conserving 2 r (chronicle (Pool.start 2 3 1) (poolActions (movesOf twoBlocked))) := by
  have run : (openReception (.standard "tts") (.online (Robot.recorder none none) (.fresh 0)) 2 3
      1).run? twoBlocked = some _ := rfl
  refine ⟨_, run, ?settled, nofun, pool_is_work_conserving run (by decide) rfl ?settled⟩
  exact is_settled_iff.mp rfl

end CommandGateway.Engine
