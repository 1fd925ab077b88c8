import CommandGateway.Proofs.Engine.Dispatches
import CommandGateway.Proofs.Inline
import CommandGateway.Proofs.Pool.Lone

/- A worker on its own. Nothing comes between the steps of its errand, so each step leaves what the
   dispatch would come to if the rest of it were done at once, and the jobs come to what they would
   come to one after another. -/
namespace CommandGateway.Engine

open Pool

variable {σ H α : Type}

def Stage.runOnto (past : List (Happening H)) (a : Accessor σ H) :
    Stage H α → α × List (Happening H) × Accessor σ H
  | .ready work => work.runOnto past a
  | .waiting service next => (Work.acquire service next).runOnto past a
  | .lookingUp service reply next => (next (found reply)).runOnto past (a.keep service reply)
  | .speaking _ reply next => (next reply).runOnto past a
  | .finished result => (result, past, a)

def Stage.IsAlone (s : Scene σ H) : Stage H α → Prop
  | .waiting _ _ => s.accessor.connector ≠ none ∧ s.inFlight = []
  | .lookingUp service _ _ => s.inFlight = [service]
  | _ => s.inFlight = []

section Stages
variable {owner : Owner} {s s' : Scene σ H} {step : Step} {stage stage' : Stage H α}

theorem stepped_run_onto (stepped : Stepped owner s step stage stage' s') :
    stage'.runOnto s'.past s'.accessor = stage.runOnto s.past s.accessor := by
  cases stepped with
  | finish | wait | answer | hear => rfl
  | log event next => rfl
  | offline service next none =>
    simp only [Stage.runOnto, Work.runOnto, Accessor.acquire, none, past_enter]
    rfl
  | known service next handle online kept | learn service next handle online kept =>
    obtain ⟨connector, online⟩ := Option.ne_none_iff_exists'.mp online
    simp [Stage.runOnto, Work.runOnto, Accessor.acquire, online, kept]
  | speak handle text next =>
    simp only [Stage.runOnto, Work.runOnto, Scene.speak, past_enter]
    rfl
  | lookUp service next connector online unknown free =>
    simp only [Stage.runOnto, Work.runOnto, Accessor.acquire, online, unknown, Scene.lookUp,
      past_enter]
    rfl

theorem stepped_alone (stepped : Stepped owner s step stage stage' s') (alone : stage.IsAlone s) :
    stage'.IsAlone s' := by
  cases stepped with
  | wait service next online unknown => exact ⟨online, alone⟩
  | learn service next handle online kept => exact alone.2
  | lookUp service next connector online unknown free =>
    exact congrArg (service :: ·) alone.2
  | answer service reply next =>
    have one : s.inFlight = [service] := alone
    simp [Stage.IsAlone, Scene.answer, one]
  | _ => exact alone

end Stages

structure Resting (seen : List (Happening H)) (a : Accessor σ H) (s : Scene σ H)
    (errands : List (Errand H)) : Prop where
  errands : errands = []
  grounded : s.inFlight = []
  past : s.past = seen.reverse
  accessor : s.accessor = a

/-- Where a worker is with its job, when the jobs before have left the robot like this. -/
def Stands (registry : Registry H) (seen : List (Happening H)) (a : Accessor σ H) (s : Scene σ H)
    (errands : List (Errand H)) : Phase → Prop
  | .running job => ∃ stage, errands = [.batch job.id stage] ∧ stage.IsAlone s ∧
      stage.runOnto s.past s.accessor = (dispatch registry job.batch).runOnto seen.reverse a
  | .ended job result => errands = [] ∧ s.inFlight = [] ∧
      (result, s.past, s.accessor) = (dispatch registry job.batch).runOnto seen.reverse a
  | _ => Resting seen a s errands

theorem stands_resting_iff {registry : Registry H} {seen : List (Happening H)}
    {a : Accessor σ H} {s : Scene σ H} {errands : List (Errand H)} {phase : Phase}
    (idle : phase.running? = none) :
    Stands registry seen a s errands phase ↔ Resting seen a s errands := by
  cases phase <;> first | exact Iff.rfl | cases idle

/-- The worker has its place after the jobs recorded so far, which came to what they come to when
    they are done one after another. -/
structure Alone (first : Accessor σ H) (e : Engine σ H) (past : List Entry) : Prop where
  results : (recordedIn past).map Prod.snd =
    (ranJobs e.registry first ((recordedIn past).map Prod.fst)).1
  stands : ∀ phase, e.pool.workers = [phase] →
    Stands e.registry (ranJobs e.registry first ((recordedIn past).map Prod.fst)).2.1
      (ranJobs e.registry first ((recordedIn past).map Prod.fst)).2.2 e.scene e.errands phase

section Moves
variable {first : Accessor σ H} {e e' : Engine σ H} {m : Move} {past es : List Entry}
  {pool : Pool} {w : Nat} {job : Job} {phase before : Phase}

theorem ran_snoc {registry : Registry H} {jobs : List Job} :
    ranJobs registry first (jobs ++ [job]) =
      ((ranJobs registry first jobs).1 ++
          [((dispatch registry job.batch).run (ranJobs registry first jobs).2.2).1],
        (ranJobs registry first jobs).2.1 ++
          ((dispatch registry job.batch).run (ranJobs registry first jobs).2.2).2.1,
        ((dispatch registry job.batch).run (ranJobs registry first jobs).2.2).2.2) := by
  simp [ranJobs, run_all_append, runAll]

theorem alone_of_stands (alone : Alone first e past) (same : e'.registry = e.registry)
    (none : recordedIn es = [])
    (stands : ∀ phase, e'.pool.workers = [phase] →
      Stands e.registry (ranJobs e.registry first ((recordedIn past).map Prod.fst)).2.1
        (ranJobs e.registry first ((recordedIn past).map Prod.fst)).2.2 e'.scene e'.errands
        phase) :
    Alone first e' (past ++ es) := by
  have kept : recordedIn (past ++ es) = recordedIn past := by
    rw [recordedIn, List.filterMap_append, ← recordedIn, ← recordedIn, none, List.append_nil]
  exact ⟨same ▸ kept ▸ alone.results, same ▸ kept ▸ stands⟩

theorem begin_alone (lone : Lone e.pool past) (alone : Alone first e past)
    (taken : e.pool.workers[w]? = some (.taken job)) (acted : e.pool.act? (.mark w) = some pool) :
    Alone first { e with
      pool := pool
      errands := e.errands ++ [.batch job.id (.ready (dispatch e.registry job.batch))] }
      (past ++ entries e.pool (.mark w)) := by
  obtain ⟨phase, one⟩ := lone.worker
  obtain ⟨rfl, rfl⟩ := only_worker one taken
  have rests : Resting _ _ e.scene e.errands := alone.stands _ one
  refine alone_of_stands alone rfl (by simp [entries, taken, recordedIn]) fun phase now => ?_
  simp only [Pool.act?, mark?, taken, Option.some.injEq] at acted
  obtain rfl : .running job = phase := by simpa [← acted, setWorker, one] using now
  refine ⟨.ready (dispatch e.registry job.batch), ?_, rests.grounded, ?_⟩
  · simp only [rests.errands, List.nil_append]
  · simp only [Stage.runOnto, rests.past, rests.accessor]

theorem collect_alone {result : Ended Report} (lone : Lone e.pool past) (alone : Alone first e past)
    (running : e.pool.workers[w]? = some (.running job))
    (ended : (errandOf (.job job.id) e.errands).bind Errand.report? = some result)
    (acted : e.pool.act? (.finish w result) = some pool) :
    Alone first { e with pool := pool, errands := removeErrand (.job job.id) e.errands }
      (past ++ entries e.pool (.finish w result)) := by
  obtain ⟨phase, one⟩ := lone.worker
  obtain ⟨rfl, rfl⟩ := only_worker one running
  obtain ⟨stage, errands, grounded, same⟩ := alone.stands _ one
  refine alone_of_stands alone rfl rfl fun phase now => ?_
  simp only [Pool.act?, finish?, running, Option.some.injEq] at acted
  obtain rfl : .ended job result = phase := by simpa [← acted, setWorker, one] using now
  have found : errandOf (.job job.id) e.errands = some (.batch job.id stage) := by
    simp [errandOf, errands, Errand.owner]
  rw [found] at ended
  cases stage with
  | finished last =>
    obtain rfl : last = result := by simpa [Errand.report?] using ended
    exact ⟨by simp [removeErrand, errands, Errand.owner], grounded, same⟩
  | _ => cases ended

theorem record_alone {result : Ended Report} (lone : Lone e.pool past) (alone : Alone first e past)
    (ended : e.pool.workers[w]? = some (.ended job result))
    (workers : pool.workers = e.pool.workers.set w (.recorded job result)) :
    Alone first { e with pool := pool } (past ++ [.recorded job result]) := by
  obtain ⟨phase, one⟩ := lone.worker
  obtain ⟨rfl, rfl⟩ := only_worker one ended
  obtain ⟨errands, grounded, same⟩ := alone.stands _ one
  have more : recordedIn (past ++ [.recorded job result]) = recordedIn past ++ [(job, result)] := by
    simp [recordedIn]
  rw [run_onto_eq] at same
  obtain ⟨result_eq, past_eq, accessor_eq⟩ := by simpa only [Prod.mk.injEq] using same
  refine ⟨?_, fun phase now => ?_⟩
  · rw [more, List.map_append, List.map_append, List.map_singleton, List.map_singleton, ran_snoc,
      alone.results, result_eq]
  · obtain rfl : .recorded job result = phase := by simpa [workers, one] using now
    rw [more, List.map_append, List.map_singleton, ran_snoc]
    exact ⟨errands, grounded, by simpa using past_eq, accessor_eq⟩

theorem resting_alone (lone : Lone e.pool past) (alone : Alone first e past)
    (found : e.pool.workers[w]? = some before) (workers : pool.workers = e.pool.workers.set w phase)
    (idle : before.running? = none) (idle' : phase.running? = none) (none : recordedIn es = []) :
    Alone first { e with pool := pool } (past ++ es) := by
  obtain ⟨phase', one⟩ := lone.worker
  obtain ⟨rfl, rfl⟩ := only_worker one found
  refine alone_of_stands alone rfl none fun phase'' now => ?_
  obtain rfl : phase = phase'' := by simpa [workers, one] using now
  exact (stands_resting_iff idle').mpr ((stands_resting_iff idle).mp (alone.stands _ one))

theorem other_alone {action : Action} (lone : Lone e.pool past) (alone : Alone first e past)
    (plain : Plain action) (acted : e.pool.act? action = some pool) :
    Alone first { e with pool := pool } (past ++ entries e.pool action) := by
  have step := act_step acted
  generalize entries e.pool action = es at step
  cases step with
  | mark w => exact absurd rfl (plain w).1
  | finish w job result => exact absurd rfl ((plain w).2 result)
  | record w job result found => exact record_alone lone alone found rfl
  | take w job rest found _ => exact resting_alone lone alone found rfl rfl rfl rfl
  | deliver w job result found => exact resting_alone lone alone found rfl rfl rfl rfl
  | leave w found _ _ => exact resting_alone lone alone found rfl rfl rfl rfl
  | _ => exact alone_of_stands alone rfl rfl alone.stands

theorem step_alone {owner : Owner} {step : Step} {errand new : Errand H} {scene : Scene σ H}
    (alone : Alone first e past) (found : errandOf owner e.errands = some errand)
    (stepped : errand.step? e.scene step = some (new, scene)) :
    Alone first { e with scene := scene, errands := replaceErrand new e.errands } (past ++ []) := by
  obtain ⟨here, -⟩ := errand_of_some found
  refine alone_of_stands alone rfl rfl fun phase one => ?_
  have stands := alone.stands phase one
  have busy : e.errands ≠ [] := List.ne_nil_of_mem here
  cases phase with
  | running job =>
    obtain ⟨stage, errands, grounded, same⟩ := stands
    obtain rfl : errand = .batch job.id stage := by simpa [errands] using here
    cases errand_stepped stepped with
    | batch _ _ later moved =>
      exact ⟨later, by simp [replaceErrand, errands, Errand.owner], stepped_alone moved grounded,
        (stepped_run_onto moved).trans same⟩
  | ended job result => exact absurd stands.1 busy
  | _ => exact absurd stands.errands busy

theorem move_alone (moved : Moved e m e') (queued : m.isQueued) (lone : Lone e.pool past)
    (alone : Alone first e past) : Alone first e' (past ++ happened e m) := by
  cases moved with
  | begin w job pool taken acted => exact begin_alone lone alone taken acted
  | collect w result job pool running ended acted =>
    exact collect_alone lone alone running ended acted
  | other action pool plain acted => exact other_alone lone alone plain acted
  | request | call | giveUp => cases queued
  | step owner step errand new scene found stepped => exact step_alone alone found stepped

end Moves

section Runs
variable {registry : Registry H} {accessor : Accessor σ H} {workers capacity retained : Nat}
  {moves : List Move} {e : Engine σ H}

theorem run_alone (few : workers ≤ 1)
    (run : (opening registry accessor workers capacity retained).run? moves = some e)
    (queued : ∀ m ∈ moves, m.isQueued) :
    Alone accessor e (chronicle (Pool.start workers capacity retained) (poolActions moves)) := by
  induction moves using List.reverseRecOn generalizing e with
  | nil =>
    cases run
    refine ⟨rfl, fun phase one => (stands_resting_iff ?_).mpr ⟨rfl, rfl, rfl, rfl⟩⟩
    obtain rfl : .idle = phase := by
      simpa [opening, Pool.start, Nat.max_eq_right few] using one
    rfl
  | append_singleton rest m ih =>
    obtain ⟨mid, before, move⟩ := run_snoc.mp run
    have queued' := queued_before queued
    rw [opening_story_snoc before move]
    exact move_alone (move_moved move) (queued m (by simp)) (run_lone few (run_pool before))
      (ih before queued')

end Runs
end CommandGateway.Engine
