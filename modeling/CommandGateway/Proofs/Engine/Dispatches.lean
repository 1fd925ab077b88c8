import CommandGateway.Proofs.Engine.Deeds
import CommandGateway.Proofs.Pool.Shutdown

/- Dispatches as errands. Every worker that runs a job has one errand for it. Whatever comes in
   between, the deeds of that errand are in order those of one course of the dispatch of its batch,
   from the first on; every result that is recorded is where such a course has ended. -/
namespace CommandGateway.Engine

open Pool

variable {σ H : Type}

structure Dispatches (e : Engine σ H) (past : List Entry) : Prop where
  owners : (e.errands.map Errand.owner).Nodup
  serves : ∀ id stage, Errand.batch id stage ∈ e.errands →
    ∃ (w : Nat) (job : Job), e.pool.workers[w]? = some (.running job) ∧ job.id = id ∧
      ∀ result, stage.canEnd result → (dispatch e.registry job.batch).canEnd result
  served : ∀ (w : Nat) (job : Job), e.pool.workers[w]? = some (.running job) →
    ∃ stage, Errand.batch job.id stage ∈ e.errands
  recorded : ∀ job result, (job, result) ∈ recordedIn past →
    (dispatch e.registry job.batch).canEnd result

/-- Dispatches with their deeds: those done are the first of a course, those ahead the others. -/
structure Traced (e : Engine σ H) (past : List Entry) (log : DeedLog H) : Prop where
  owners : (e.errands.map Errand.owner).Nodup
  serves : ∀ id stage, Errand.batch id stage ∈ e.errands →
    ∃ (w : Nat) (job : Job), e.pool.workers[w]? = some (.running job) ∧ job.id = id ∧
      ∀ rest result, stage.Ahead rest result →
        Course (dispatch e.registry job.batch) (doneBy (.job id) log ++ rest) result
  served : ∀ (w : Nat) (job : Job), e.pool.workers[w]? = some (.running job) →
    ∃ stage, Errand.batch job.id stage ∈ e.errands
  ended : ∀ (w : Nat) (job : Job) (result : Ended Report),
    e.pool.workers[w]? = some (.ended job result) →
    Course (dispatch e.registry job.batch) (doneBy (.job job.id) log) result
  recorded : ∀ job result, (job, result) ∈ recordedIn past →
    Course (dispatch e.registry job.batch) (doneBy (.job job.id) log) result
  pending : ∀ id, id ∉ (dispatchedIn past).map Job.id → doneBy (.job id) log = []

theorem traced_dispatches {e : Engine σ H} {past : List Entry} {log : DeedLog H}
    (inv : Traced e past log) : Dispatches e past := by
  refine ⟨inv.owners, ?_, inv.served, ?_⟩
  · intro id stage member
    obtain ⟨w, job, running, same, leads⟩ := inv.serves id stage member
    refine ⟨w, job, running, same, ?_⟩
    rintro result ⟨rest, ahead⟩
    exact ⟨_, leads rest result ahead⟩
  · exact fun job result recorded => ⟨_, inv.recorded job result recorded⟩

section Phases
variable {p q : Pool} {a : Action} {es : List Entry} {w : Nat} {job : Job}

theorem plain_running (step : Pool.Step p a es q) (plain : Plain a) :
    q.workers[w]? = some (.running job) ↔ p.workers[w]? = some (.running job) := by
  cases step with
  | mark w => exact absurd rfl (plain w).1
  | finish w job result => exact absurd rfl ((plain w).2 result)
  | take w' _ _ found _ | record w' _ _ found | deliver w' _ _ found | leave w' found _ _ =>
    exact ⟨get_of_set (by simp), get_set_of_get found (by simp)⟩
  | _ => exact Iff.rfl

theorem plain_ended {result : Ended Report} (step : Pool.Step p a es q) (plain : Plain a)
    (ended : q.workers[w]? = some (.ended job result)) :
    p.workers[w]? = some (.ended job result) := by
  cases step with
  | finish w job result => exact absurd rfl ((plain w).2 result)
  | take | mark | record | deliver | leave => exact get_of_set (by simp) ended
  | _ => exact ended

theorem plain_recorded {result : Ended Report} (step : Pool.Step p a es q)
    (recorded : (job, result) ∈ recordedIn es) :
    ∃ w : Nat, p.workers[w]? = some (.ended job result) := by
  cases step with
  | record w other earlier found =>
    obtain ⟨rfl, rfl⟩ : job = other ∧ result = earlier := by simpa [recordedIn] using recorded
    exact ⟨w, found⟩
  | _ => simp [recordedIn] at recorded

theorem plain_dispatched (step : Pool.Step p a es q) (plain : Plain a) : dispatchedIn es = [] := by
  cases step with
  | mark w => exact absurd rfl (plain w).1
  | _ => rfl

theorem one_worker {past : List Entry} {w' : Nat} {other : Job} (acc : Accounts p past)
    (fresh : (enteredIn past).Nodup) (first : p.workers[w]? = some (.running job))
    (second : p.workers[w']? = some (.running other)) (same : job.id = other.id) : w = w' :=
  same_key_same_place (f := Phase.running?) (recorded_and_running_nodup acc fresh).of_append_right
    first second rfl rfl same

end Phases

section Moves
variable {e : Engine σ H} {past : List Entry} {log more : DeedLog H} {pool : Pool} {w : Nat}
  {job : Job} {id : Uuid}

theorem errand_of_job {errand : Errand H} (owner : errand.owner = .job id) :
    ∃ stage, errand = .batch id stage := by
  cases errand with
  | batch name stage =>
    cases owner
    exact ⟨stage, rfl⟩
  | payload | handle => cases owner

theorem job_owner_iff {errands : List (Errand H)} :
    Owner.job id ∈ errands.map Errand.owner ↔ ∃ stage, Errand.batch id stage ∈ errands := by
  constructor
  · intro member
    obtain ⟨errand, here, owner⟩ := List.mem_map.mp member
    obtain ⟨stage, rfl⟩ := errand_of_job owner
    exact ⟨stage, here⟩
  · rintro ⟨stage, here⟩
    exact List.mem_map_of_mem here

theorem running_dispatched {phase : Phase} (acc : Accounts e.pool past)
    (found : e.pool.workers[w]? = some phase) (running : phase.running? = some job) :
    job ∈ dispatchedIn past :=
  acc.running.mem_iff.mpr (List.mem_append_right _
    (List.mem_filterMap.mpr ⟨phase, List.mem_of_getElem? found, running⟩))

theorem pending_unserved (acc : Accounts e.pool past) (inv : Traced e past log)
    (pending : id ∉ (dispatchedIn past).map Job.id) :
    Owner.job id ∉ e.errands.map Errand.owner := by
  intro present
  obtain ⟨stage, here⟩ := job_owner_iff.mp present
  obtain ⟨w, job, running, rfl, -⟩ := inv.serves _ _ here
  exact pending (List.mem_map_of_mem (running_dispatched acc running rfl))

theorem ended_unserved {result : Ended Report} (acc : Accounts e.pool past)
    (fresh : (enteredIn past).Nodup) (inv : Traced e past log)
    (ended : e.pool.workers[w]? = some (.ended job result)) :
    Owner.job job.id ∉ e.errands.map Errand.owner := by
  intro present
  obtain ⟨stage, here⟩ := job_owner_iff.mp present
  obtain ⟨w', other, running, same, -⟩ := inv.serves _ _ here
  obtain rfl : w' = w := same_key_same_place (f := Phase.running?)
    (recorded_and_running_nodup acc fresh).of_append_right running ended rfl rfl same
  simp [running] at ended

theorem recorded_unserved (acc : Accounts e.pool past) (fresh : (enteredIn past).Nodup)
    (inv : Traced e past log) (recorded : id ∈ recordedIds past) :
    Owner.job id ∉ e.errands.map Errand.owner := by
  intro present
  obtain ⟨stage, here⟩ := job_owner_iff.mp present
  obtain ⟨w, job, running, rfl, -⟩ := inv.serves _ _ here
  exact running_not_recorded acc fresh running rfl recorded

theorem still_pending {es : List Entry} (pending : id ∉ (dispatchedIn (past ++ es)).map Job.id) :
    id ∉ (dispatchedIn past).map Job.id := by
  rw [dispatchedIn, List.filterMap_append, List.map_append] at pending
  exact fun before => pending (List.mem_append_left _ before)

theorem begin_traced (acc : Accounts e.pool past) (fresh : (enteredIn past).Nodup)
    (taken : e.pool.workers[w]? = some (.taken job)) (acted : e.pool.act? (.mark w) = some pool)
    (inv : Traced e past log) :
    Traced { e with
      pool := pool
      errands := e.errands ++ [.batch job.id (.ready (dispatch e.registry job.batch))] }
      (past ++ entries e.pool (.mark w)) log := by
  have unstarted := waiting_not_dispatched acc fresh taken
  have free : errandOf (.job job.id) e.errands = none :=
    errand_of_eq_none_iff.mpr (pending_unserved acc inv unstarted)
  have workers : pool.workers = e.pool.workers.set w (.running job) := by
    simp only [Pool.act?, mark?, taken, Option.some.injEq] at acted
    rw [← acted]
    rfl
  have here : pool.workers[w]? = some (.running job) := by
    rw [workers, List.getElem?_set_self (List.getElem?_eq_some_iff.mp taken).1]
  have kept : recordedIn (past ++ entries e.pool (.mark w)) = recordedIn past := by
    simp [entries, taken, recordedIn]
  refine ⟨add_owners_nodup inv.owners free, ?_, ?_, ?_, ?_, ?_⟩
  · intro id stage member
    rcases List.mem_append.mp member with old | new
    · obtain ⟨w', other, running, same, leads⟩ := inv.serves id stage old
      exact ⟨w', other, workers ▸ get_set_of_get taken (by simp) running, same, leads⟩
    · cases List.mem_singleton.mp new
      refine ⟨w, job, here, rfl, fun rest result course => ?_⟩
      rw [inv.pending job.id unstarted]
      exact course
  · intro w' other running
    by_cases same : w' = w
    · subst same
      obtain rfl : other = job := by simpa using running.symm.trans here
      exact ⟨_, List.mem_append_right _ (List.mem_singleton_self _)⟩
    · simp only [workers, List.getElem?_set_ne (Ne.symm same)] at running
      obtain ⟨stage, member⟩ := inv.served w' other running
      exact ⟨stage, List.mem_append_left _ member⟩
  · intro w' other result ended
    simp only [workers] at ended
    exact inv.ended w' other result (get_of_set (by simp) ended)
  · rw [kept]
    exact inv.recorded
  · exact fun id pending => inv.pending id (still_pending pending)

theorem running_course {stage : Stage H (Ended Report)} {rest : List (Deed H)}
    {result : Ended Report} (acc : Accounts e.pool past) (fresh : (enteredIn past).Nodup)
    (running : e.pool.workers[w]? = some (.running job))
    (member : Errand.batch job.id stage ∈ e.errands) (inv : Traced e past log)
    (ahead : stage.Ahead rest result) :
    Course (dispatch e.registry job.batch) (doneBy (.job job.id) log ++ rest) result := by
  obtain ⟨w', other, running', same, leads⟩ := inv.serves _ _ member
  obtain rfl := one_worker acc fresh running running' same.symm
  obtain rfl : job = other := by simpa using running.symm.trans running'
  exact leads rest result ahead

theorem finished_course {result : Ended Report} (acc : Accounts e.pool past)
    (fresh : (enteredIn past).Nodup) (running : e.pool.workers[w]? = some (.running job))
    (ended : (errandOf (.job job.id) e.errands).bind Errand.report? = some result)
    (inv : Traced e past log) :
    Course (dispatch e.registry job.batch) (doneBy (.job job.id) log) result := by
  obtain ⟨errand, found, report⟩ := Option.bind_eq_some_iff.mp ended
  obtain ⟨member, owner⟩ := errand_of_some found
  obtain ⟨stage, rfl⟩ := errand_of_job owner
  cases stage with
  | finished last =>
    obtain rfl : last = result := by simpa [Errand.report?] using report
    have whole := running_course acc fresh running member inv ⟨rfl, rfl⟩
    simpa using whole
  | _ => cases report

theorem collect_traced {result : Ended Report} (acc : Accounts e.pool past)
    (fresh : (enteredIn past).Nodup) (running : e.pool.workers[w]? = some (.running job))
    (ended : (errandOf (.job job.id) e.errands).bind Errand.report? = some result)
    (acted : e.pool.act? (.finish w result) = some pool) (inv : Traced e past log) :
    Traced { e with pool := pool, errands := removeErrand (.job job.id) e.errands }
      (past ++ entries e.pool (.finish w result)) log := by
  have workers : pool.workers = e.pool.workers.set w (.ended job result) := by
    simp only [Pool.act?, finish?, running, Option.some.injEq] at acted
    rw [← acted]
    rfl
  have course := finished_course acc fresh running ended inv
  have moved : ∀ {w' other}, pool.workers[w']? = some (.running other) →
      w' ≠ w ∧ e.pool.workers[w']? = some (.running other) := by
    intro w' other running'
    rw [workers] at running'
    refine ⟨?_, get_of_set (by simp) running'⟩
    rintro rfl
    simp [(List.getElem?_eq_some_iff.mp running).1] at running'
  refine ⟨?_, ?_, ?_, ?_, ?_, ?_⟩
  · rw [remove_owners]
    exact inv.owners.filter _
  · intro id stage member
    obtain ⟨here, other⟩ := mem_remove_iff.mp member
    obtain ⟨w', served, running', same, leads⟩ := inv.serves id stage here
    have apart : Phase.running job ≠ .running served := by
      rintro ⟨⟩
      exact other (congrArg Owner.job same.symm)
    exact ⟨w', served, workers ▸ get_set_of_get running apart running', same, leads⟩
  · intro w' other running'
    obtain ⟨apart, before⟩ := moved running'
    obtain ⟨stage, member⟩ := inv.served w' other before
    refine ⟨stage, mem_remove_iff.mpr ⟨member, ?_⟩⟩
    intro same
    exact apart (one_worker acc fresh before running (Owner.job.inj same))
  · intro w' other earlier ended'
    by_cases same : w' = w
    · subst same
      have new : Phase.ended job result = .ended other earlier := by
        simpa [workers, (List.getElem?_eq_some_iff.mp running).1] using ended'
      cases new
      exact course
    · simp only [workers, List.getElem?_set_ne (Ne.symm same)] at ended'
      exact inv.ended w' other earlier ended'
  · simpa [entries] using inv.recorded
  · exact fun id pending => inv.pending id (still_pending pending)

theorem other_traced {action : Action} (plain : Plain action)
    (acted : e.pool.act? action = some pool) (inv : Traced e past log) :
    Traced { e with pool := pool } (past ++ entries e.pool action) log := by
  have step := act_step acted
  refine ⟨inv.owners, ?_, ?_, ?_, ?_, ?_⟩
  · intro id stage member
    obtain ⟨w, job, running, rest⟩ := inv.serves id stage member
    exact ⟨w, job, (plain_running step plain).mpr running, rest⟩
  · intro w job running
    exact inv.served w job ((plain_running step plain).mp running)
  · intro w job result ended
    exact inv.ended w job result (plain_ended step plain ended)
  · intro job result recorded
    rw [recordedIn, List.filterMap_append, List.mem_append] at recorded
    rcases recorded with before | now
    · exact inv.recorded job result before
    · obtain ⟨w, ended⟩ := plain_recorded step now
      exact inv.ended w job result ended
  · exact fun id pending => inv.pending id (still_pending pending)

theorem errands_traced {scene : Scene σ H} {errands : List (Errand H)} (acc : Accounts e.pool past)
    (fresh : (enteredIn past).Nodup) (owners : (errands.map Errand.owner).Nodup)
    (back : ∀ id stage, Errand.batch id stage ∈ errands → ∃ earlier,
      Errand.batch id earlier ∈ e.errands ∧ ∀ rest result, stage.Ahead rest result →
        earlier.Ahead (doneBy (.job id) more ++ rest) result)
    (forth : ∀ id stage, Errand.batch id stage ∈ e.errands → ∃ later,
      Errand.batch id later ∈ errands)
    (quiet : ∀ owner, owner ∉ e.errands.map Errand.owner → doneBy owner more = [])
    (inv : Traced e past log) :
    Traced { e with scene := scene, errands := errands } (past ++ []) (log ++ more) := by
  have same : ∀ {id}, Owner.job id ∉ e.errands.map Errand.owner →
      doneBy (.job id) (log ++ more) = doneBy (.job id) log := by
    intro id absent
    rw [done_by_append, quiet _ absent, List.append_nil]
  rw [List.append_nil]
  refine ⟨owners, ?_, ?_, ?_, ?_, ?_⟩
  · intro id stage member
    obtain ⟨earlier, here, leads⟩ := back id stage member
    obtain ⟨w, job, running, own, leads'⟩ := inv.serves id earlier here
    refine ⟨w, job, running, own, fun rest result ahead => ?_⟩
    rw [done_by_append, List.append_assoc]
    exact leads' _ result (leads rest result ahead)
  · intro w job running
    obtain ⟨stage, member⟩ := inv.served w job running
    exact forth job.id stage member
  · intro w job result ended
    rw [same (ended_unserved acc fresh inv ended)]
    exact inv.ended w job result ended
  · intro job result recorded
    have done : job.id ∈ recordedIds past :=
      List.mem_map_of_mem (f := fun r : Job × Ended Report => r.1.id) recorded
    rw [same (recorded_unserved acc fresh inv done)]
    exact inv.recorded job result recorded
  · intro id pending
    rw [same (pending_unserved acc inv pending)]
    exact inv.pending id pending

theorem add_traced {new : Errand H} (acc : Accounts e.pool past) (fresh : (enteredIn past).Nodup)
    (free : errandOf new.owner e.errands = none) (other : ∀ id stage, new ≠ .batch id stage)
    (inv : Traced e past log) :
    Traced { e with errands := e.errands ++ [new] } (past ++ []) (log ++ []) := by
  refine errands_traced acc fresh (add_owners_nodup inv.owners free) ?_ ?_ (fun _ _ => rfl) inv
  · intro id stage member
    rcases List.mem_append.mp member with old | last
    · exact ⟨stage, old, fun _ _ ahead => ahead⟩
    · exact absurd (List.mem_singleton.mp last).symm (other id stage)
  · exact fun id stage member => ⟨stage, List.mem_append_left _ member⟩

theorem give_up_traced {n : Nat} {scene : Scene σ H} (acc : Accounts e.pool past)
    (fresh : (enteredIn past).Nodup) (inv : Traced e past log) :
    Traced { e with scene := scene, errands := removeErrand (.caller n) e.errands }
      (past ++ []) (log ++ []) := by
  refine errands_traced acc fresh ?_ ?_ ?_ (fun _ _ => rfl) inv
  · rw [remove_owners]
    exact inv.owners.filter _
  · exact fun id stage member => ⟨stage, (mem_remove_iff.mp member).1, fun _ _ ahead => ahead⟩
  · exact fun id stage member => ⟨stage, mem_remove_iff.mpr ⟨member, by simp [Errand.owner]⟩⟩

theorem batch_step {stage : Stage H (Ended Report)} {errand : Errand H} {step : Step}
    {s s' : Scene σ H} (stepped : errand.step? s step = some (.batch id stage, s')) :
    ∃ earlier, errand = .batch id earlier ∧ Stepped (.job id) s step earlier stage s' := by
  cases errand_stepped stepped with
  | batch _ earlier _ moved => exact ⟨earlier, rfl, moved⟩

theorem step_traced {owner : Owner} {step : Step} {errand new : Errand H} {scene : Scene σ H}
    (acc : Accounts e.pool past) (fresh : (enteredIn past).Nodup)
    (found : errandOf owner e.errands = some errand)
    (stepped : errand.step? e.scene step = some (new, scene)) (inv : Traced e past log) :
    Traced { e with scene := scene, errands := replaceErrand new e.errands } (past ++ [])
      (log ++ (errand.deeds e.scene step).map (owner, ·)) := by
  obtain ⟨here, owns⟩ := errand_of_some found
  have owners := errand_step_owner stepped
  have present : new.owner ∈ e.errands.map Errand.owner := owners ▸ List.mem_map_of_mem here
  refine errands_traced acc fresh ?_ ?_ ?_ ?_ inv
  · rw [replace_owners]
    exact inv.owners
  · intro id stage member
    rcases (mem_replace_iff present).mp member with rfl | ⟨old, apart⟩
    · obtain ⟨earlier, rfl, moved⟩ := batch_step stepped
      obtain rfl : Owner.job id = owner := owns
      refine ⟨earlier, here, fun rest result ahead => ?_⟩
      rw [done_by_own]
      exact stepped_ahead moved ahead
    · have apart : owner ≠ .job id :=
        fun same => apart (same.symm.trans (owns.symm.trans owners.symm))
      refine ⟨stage, old, fun rest result ahead => ?_⟩
      rwa [done_by_other apart]
  · intro id stage member
    rw [← job_owner_iff, replace_owners]
    exact job_owner_iff.mpr ⟨stage, member⟩
  · intro other absent
    refine done_by_other ?_ _
    rintro rfl
    exact absent (owns ▸ List.mem_map_of_mem here)

end Moves

theorem move_traced {e e' : Engine σ H} {m : Move} {past : List Entry} {log : DeedLog H}
    (moved : Moved e m e') (acc : Accounts e.pool past) (fresh : (enteredIn past).Nodup)
    (inv : Traced e past log) : Traced e' (past ++ happened e m) (log ++ deedsIn e m) := by
  cases moved with
  | begin w job pool taken acted =>
    simpa only [deedsIn, happened, List.append_nil] using begin_traced acc fresh taken acted inv
  | collect w result job pool running ended acted =>
    have collected := collect_traced acc fresh running ended acted inv
    simpa only [deedsIn, happened, List.append_nil] using collected
  | other action pool plain acted =>
    simpa only [deedsIn, happened, List.append_nil] using other_traced plain acted inv
  | request n body free => exact add_traced acc fresh free (by simp) inv
  | call n service free => exact add_traced acc fresh free (by simp) inv
  | giveUp n errand found => exact give_up_traced acc fresh inv
  | step owner step errand new scene found stepped =>
    simp only [deedsIn, found]
    exact step_traced acc fresh found stepped inv

section Courses
variable {e : Engine σ H} {past : List Entry} {log : DeedLog H} {job : Job}

theorem recorded_once {result result' : Ended Report} (nodup : (recordedIds past).Nodup)
    (first : (job, result) ∈ recordedIn past) (second : (job, result') ∈ recordedIn past) :
    result' = result := by
  have same := List.inj_on_of_nodup_map nodup first second rfl
  exact (Prod.ext_iff.mp same).2.symm

/-- What was done for a job is the first part of a course, and all of one that ended with what was
    recorded, if anything was. -/
theorem traced_course (acc : Accounts e.pool past) (fresh : (enteredIn past).Nodup)
    (inv : Traced e past log) (accepted : job ∈ acceptedIn past) :
    ∃ rest result,
      Course (dispatch e.registry job.batch) (doneBy (.job job.id) log ++ rest) result ∧
      ∀ result', (job, result') ∈ recordedIn past → rest = [] ∧ result' = result := by
  have only : ∀ {other}, other ∈ acceptedIn past → other.id = job.id → other = job :=
    fun member same => List.inj_on_of_nodup_map (accepted_nodup acc fresh) member accepted same
  by_cases started : job ∈ dispatchedIn past
  · rcases List.mem_append.mp (acc.running.mem_iff.mp started) with recorded | running
    · obtain ⟨⟨other, result⟩, member, rfl⟩ := List.mem_map.mp recorded
      refine ⟨[], result, by simpa using inv.recorded _ result member, fun result' member' => ?_⟩
      exact ⟨rfl, recorded_once (recorded_nodup acc fresh) member member'⟩
    · obtain ⟨phase, member, runs⟩ := List.mem_filterMap.mp running
      obtain ⟨w, here⟩ := List.getElem?_of_mem member
      have unrecorded : ∀ result', (job, result') ∉ recordedIn past := fun result' member' =>
        running_not_recorded acc fresh here runs
          (List.mem_map_of_mem (f := fun r : Job × Ended Report => r.1.id) member')
      cases phase with
      | running other =>
        obtain rfl : other = job := Option.some.inj runs
        obtain ⟨stage, errand⟩ := inv.served w other here
        obtain ⟨rest, result, ahead⟩ := end_ahead e.scene.accessor stage
        exact ⟨rest, result, running_course acc fresh here errand inv ahead,
          fun r member' => absurd member' (unrecorded r)⟩
      | ended other result =>
        obtain rfl : other = job := Option.some.inj runs
        exact ⟨[], result, by simpa using inv.ended w other result here,
          fun r member' => absurd member' (unrecorded r)⟩
      | _ => cases runs
  · have pending : job.id ∉ (dispatchedIn past).map Job.id := by
      intro present
      obtain ⟨other, member, same⟩ := List.mem_map.mp present
      exact started (only (dispatched_accepted acc member) same ▸ member)
    obtain ⟨rest, result, course⟩ :=
      has_course e.scene.accessor (dispatch e.registry job.batch)
    refine ⟨rest, result, ?_, fun result' member => absurd (recorded_dispatched acc member) started⟩
    rw [inv.pending job.id pending]
    exact course

end Courses

def Move.isQueued : Move → Bool
  | .pool _ => true
  | .step _ _ => true
  | _ => false

theorem queued_before {moves : List Move} {last : Move}
    (queued : ∀ m ∈ moves ++ [last], m.isQueued) : ∀ m ∈ moves, m.isQueued :=
  fun m member => queued m (List.mem_append_left _ member)

section Queued
variable {e e' : Engine σ H} {m : Move} {past : List Entry} {log : DeedLog H}

theorem queued_batches (moved : Moved e m e') (queued : m.isQueued)
    (all : ∀ errand ∈ e.errands, ∃ id stage, errand = Errand.batch id stage) :
    ∀ errand ∈ e'.errands, ∃ id stage, errand = Errand.batch id stage := by
  intro errand member
  cases moved with
  | begin w job pool taken acted =>
    rcases List.mem_append.mp member with old | new
    · exact all errand old
    · exact ⟨_, _, List.mem_singleton.mp new⟩
  | collect w result job pool running ended acted => exact all errand (mem_remove_iff.mp member).1
  | other action pool plain acted => exact all errand member
  | request | call | giveUp => cases queued
  | step owner step old new scene found stepped =>
    obtain ⟨here, -⟩ := errand_of_some found
    have present : new.owner ∈ e.errands.map Errand.owner :=
      errand_step_owner stepped ▸ List.mem_map_of_mem here
    rcases (mem_replace_iff present).mp member with rfl | ⟨other, -⟩
    · obtain ⟨id, stage, rfl⟩ := all old here
      cases errand_stepped stepped with
      | batch _ _ later => exact ⟨id, later, rfl⟩
    · exact all errand other

theorem deed_served (inv : Traced e past log)
    (all : ∀ errand ∈ e.errands, ∃ id stage, errand = Errand.batch id stage)
    {d : Owner × Deed H} (member : d ∈ deedsIn e m) :
    ∃ (w : Nat) (job : Job), e.pool.workers[w]? = some (.running job) ∧ d.1 = .job job.id := by
  cases m with
  | step owner step =>
    simp only [deedsIn] at member
    split at member
    · rename_i errand found
      obtain ⟨here, owns⟩ := errand_of_some found
      obtain ⟨id, stage, rfl⟩ := all errand here
      obtain ⟨w, job, running, same, -⟩ := inv.serves id stage here
      obtain ⟨deed, -, rfl⟩ := List.mem_map.mp member
      exact ⟨w, job, running, same ▸ owns.symm⟩
    · cases member
  | pool | request | call | giveUp => cases member

end Queued

section Runs
variable {registry : Registry H} {accessor : Accessor σ H} {workers capacity retained : Nat}
  {moves : List Move} {e : Engine σ H}

theorem run_traced
    (run : (opening registry accessor workers capacity retained).run? moves = some e)
    (fresh : (issued (poolActions moves)).Nodup) :
    Traced e (chronicle (Pool.start workers capacity retained) (poolActions moves))
      (deedLog (opening registry accessor workers capacity retained) moves) := by
  refine fresh_moves_keep (fun moves e =>
    Traced e (chronicle (Pool.start workers capacity retained) (poolActions moves))
      (deedLog (opening registry accessor workers capacity retained) moves))
    (fun before move acc ids inv => ?_) run fresh ?_
  · rw [deed_log_snoc before move, opening_story_snoc before move]
    exact move_traced (move_moved move) acc ids inv
  · refine ⟨List.nodup_nil, ?_, ?_, ?_, ?_, fun _ _ => rfl⟩
    · simp [opening]
    · intro w job running
      simp [opening, Pool.start, List.getElem?_replicate] at running
    · intro w job result ended
      simp [opening, Pool.start, List.getElem?_replicate] at ended
    · simp [chronicle, poolActions, recordedIn]

theorem run_dispatches
    (run : (opening registry accessor workers capacity retained).run? moves = some e)
    (fresh : (issued (poolActions moves)).Nodup) :
    Dispatches e (chronicle (Pool.start workers capacity retained) (poolActions moves)) :=
  traced_dispatches (run_traced run fresh)

theorem run_batches
    (run : (opening registry accessor workers capacity retained).run? moves = some e)
    (queued : ∀ m ∈ moves, m.isQueued) :
    ∀ errand ∈ e.errands, ∃ id stage, errand = Errand.batch id stage := by
  induction moves using List.reverseRecOn generalizing e with
  | nil =>
    cases run
    simp [opening]
  | append_singleton rest m ih =>
    obtain ⟨mid, before, move⟩ := run_snoc.mp run
    have earlier := ih before (queued_before queued)
    exact queued_batches (move_moved move) (queued m (by simp)) earlier

end Runs
end CommandGateway.Engine
