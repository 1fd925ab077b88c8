import CommandGateway.Proofs.Engine.Waking

/- No worker of a rota is forgotten while the queue is open: whoever comes to something to do is
   woken for it, by the end of its errand or by the one before it in line. -/
namespace CommandGateway.Engine

open Pool

variable {σ H : Type}

/-- No worker is forgotten: whoever has something to do has a turn, and so has the first in line
    while a batch waits. A job that is over is collected once its errand has told so. -/
structure Roused (r : Rota σ H) : Prop where
  asks : ∀ w : Nat, r.engine.pool.workers[w]? = some .idle → w ∈ r.receivers ∨ .worker w ∈ r.ready
  first : ∀ w, r.receivers.head? = some w → r.engine.pool.queue ≠ [] → .worker w ∈ r.ready
  ends : ∀ (w : Nat) (job : Job) (result : Ended Report),
    r.engine.pool.workers[w]? = some (.ended job result) ∨
      r.engine.pool.workers[w]? = some (.recorded job result) → .worker w ∈ r.ready
  collects : ∀ (w : Nat) (job : Job), r.engine.pool.workers[w]? = some (.running job) →
    standingOf r.engine (.job job.id) = some .finished →
    .worker w ∈ r.ready ∨ .errand (.job job.id) ∈ r.ready

section ErrandTurns
variable {r : Rota σ H} {owner : Owner} {rest : List Thread}

theorem play_apart (owner : Owner) (step : Step) :
    (r.play (.step owner step)).engine.pool = r.engine.pool ∧
      ∀ p, p ≠ owner → standingOf (r.play (.step owner step)).engine p = standingOf r.engine p := by
  cases move : r.engine.step? owner step with
  | none =>
    have same : r.play (.step owner step) = r := by simp [Rota.play, move?, move]
    rw [same]
    exact ⟨rfl, fun _ _ => rfl⟩
  | some e =>
    obtain ⟨old, new, -, steps⟩ := step_steps move
    rw [play_with (m := .step owner step) move]
    exact ⟨steps.pool, steps.others⟩

theorem play_unfinished (step : Step) (waits : step ≠ .advance)
    (unfinished : standingOf r.engine owner ≠ some .finished) :
    standingOf (r.play (.step owner step)).engine owner ≠ some .finished := by
  cases move : r.engine.step? owner step with
  | none =>
    have same : r.play (.step owner step) = r := by simp [Rota.play, move?, move]
    rwa [same]
  | some e =>
    obtain ⟨old, new, -, steps⟩ := step_steps move
    rw [play_with (m := .step owner step) move]
    intro ended
    have ended := Option.some.inj (steps.own.symm.trans ended)
    cases step with
    | advance => exact waits rfl
    | lookUp =>
      obtain ⟨_, -, -, ⟨-, ready⟩ | ⟨-, _, looks⟩⟩ := look_up_standing steps.stepped
      · cases ready.symm.trans ended
      · cases looks.symm.trans ended
    | answer =>
      obtain ⟨_, _, -, ready, -⟩ := answer_standing steps.stepped
      cases ready.symm.trans ended
    | hear =>
      obtain ⟨-, ready, -⟩ := hear_standing steps.stepped
      cases ready.symm.trans ended

theorem errand_turn_apart (owner : Owner) :
    (r.errandTurn owner).engine.pool = r.engine.pool ∧
      (r.errandTurn owner).receivers = r.receivers ∧
      ∀ p, p ≠ owner → standingOf (r.errandTurn owner).engine p = standingOf r.engine p := by
  rcases errand_turn_reception (r := r) owner with same | ⟨standing, step, -, -, same⟩
  · have engine : (r.errandTurn owner).engine = r.engine := congrArg Reception.engine same
    exact ⟨by rw [engine], congrArg Reception.line same, fun p _ => by rw [engine]⟩
  · have engine : (r.errandTurn owner).engine = (r.play (.step owner step)).engine :=
      congrArg Reception.engine same
    rw [engine]
    obtain ⟨pool, others⟩ := play_apart (r := r) owner step
    exact ⟨pool, congrArg Reception.line same, others⟩

theorem errand_turn_unfinished (waits : standingOf r.engine owner ≠ some .ready)
    (unfinished : standingOf r.engine owner ≠ some .finished) :
    standingOf (r.errandTurn owner).engine owner ≠ some .finished := by
  rcases errand_turn_reception (r := r) owner with same | ⟨standing, step, stands, due, same⟩
  · have engine : (r.errandTurn owner).engine = r.engine := congrArg Reception.engine same
    rwa [engine]
  · have engine : (r.errandTurn owner).engine = (r.play (.step owner step)).engine :=
      congrArg Reception.engine same
    rw [engine]
    refine play_unfinished step ?_ unfinished
    rintro rfl
    cases standing <;> first | exact waits stands | cases due

theorem look_up_turns (owner : Owner) :
    (r.lookUp owner).ready = r.ready ∨ (r.lookUp owner).ready = r.ready.tail := by
  simp only [Rota.lookUp]
  split
  · split
    · exact .inr rfl
    · exact .inl rfl
  · exact .inl rfl

theorem queue_up_turns (owner : Owner) (service : String) :
    (r.queueUp owner service).ready = r.ready ∨
      (r.queueUp owner service).ready = r.ready.tail := by
  unfold Rota.queueUp
  split
  · exact look_up_turns owner
  · split
    · exact look_up_turns (r := r.setDesk service _) owner
    · split
      · exact look_up_turns owner
      · exact .inr rfl

theorem speak_turns (owner : Owner) (text : String) :
    (r.speak owner text).ready = r.ready ∨ (r.speak owner text).ready = r.ready.tail := by
  unfold Rota.speak
  split
  · exact .inl rfl
  · split
    · exact .inl rfl
    · exact .inr rfl

theorem wake_turns {t : Thread} (threads : List Thread) (order : Lasting r.ready) :
    t ∈ (r.wake threads).ready ↔ t ∈ r.ready ∨ t ∈ threads := by
  rw [wake_eq]
  exact (woken_lasting threads order).2 t

theorem leave_desk_turns {t : Thread} (service : String) (succeeds : Bool)
    (order : Lasting r.ready) (turn : t ∈ r.ready) : t ∈ (r.leaveDesk service succeeds).ready := by
  unfold Rota.leaveDesk
  split
  · exact turn
  · split
    · exact (wake_turns (r := r.setDesk service _) _ order).mpr (.inl turn)
    · split
      · exact turn
      · exact (wake_turns (r := r.setDesk service _) _ order).mpr (.inl turn)

theorem errand_turn_turns {t : Thread} (head : r.ready = .errand owner :: rest)
    (order : Lasting r.ready) (other : t ≠ .errand owner) (turn : t ∈ r.ready) :
    t ∈ (r.errandTurn owner).ready := by
  have behind : t ∈ r.ready.tail := by simpa [head, other] using turn
  have stays : ∀ {q : Rota σ H}, q.ready = r.ready ∨ q.ready = r.ready.tail → t ∈ q.ready :=
    fun same => same.elim (fun same => same ▸ turn) (fun same => same ▸ behind)
  unfold Rota.errandTurn
  split
  · exact behind
  · exact turn
  · exact stays (queue_up_turns owner _)
  · exact leave_desk_turns _ _ order turn
  · exact stays (speak_turns owner _)
  · unfold Rota.leaveErrand
    split
    · split
      · exact (wake_turns _ (tail_lasting order)).mpr (.inl behind)
      · exact behind
    · exact behind

/-- Whoever is not forgotten before the turn of an errand is not forgotten after it, unless the
    errand tells that it is over. -/
theorem errand_roused (order : Lasting r.ready) (roused : Roused r)
    (head : r.ready = .errand owner :: rest)
    (unfinished : standingOf r.engine owner ≠ some .finished) : Roused (r.errandTurn owner) := by
  have turns : ∀ {t}, t ≠ .errand owner → t ∈ r.ready → t ∈ (r.errandTurn owner).ready :=
    errand_turn_turns head order
  obtain ⟨pool, receivers, others⟩ := errand_turn_apart (r := r) owner
  refine ⟨fun w idle => ?_, fun w first queue => ?_, fun w job result ends => ?_,
    fun w job running ended => ?_⟩
  · rw [pool] at idle
    exact (roused.asks w idle).imp (fun lined => receivers ▸ lined) (turns nofun)
  · rw [pool] at queue
    rw [receivers] at first
    exact turns nofun (roused.first w first queue)
  · rw [pool] at ends
    exact turns nofun (roused.ends w job result ends)
  · rw [pool] at running
    by_cases own : Owner.job job.id = owner
    · have ready : standingOf r.engine owner = some .ready := by
        by_contra waits
        exact errand_turn_unfinished waits unfinished (own ▸ ended)
      have same : r.errandTurn owner = r.play (.step owner .advance) := by
        have ready : (errandOf owner r.engine.errands).map Errand.standing = some .ready := ready
        simp only [Rota.errandTurn, ready]
      refine .inr ?_
      rw [same, own]
      simp [Rota.play, head]
    · rw [others _ own] at ended
      refine (roused.collects w job running ended).imp (turns nofun) (turns ?_)
      rintro ⟨⟩
      exact own rfl

theorem worker_of_first {job : Job} {id : Uuid} {workers : List Phase} {n w : Nat}
    (running : workers[w]? = some (.running job)) (own : job.id = id)
    (first : ∀ v < w, ∀ other, workers[v]? = some (.running other) → other.id ≠ id) :
    workerOf id workers n = some (n + w) := by
  induction workers generalizing n w with
  | nil => simp at running
  | cons phase rest ih =>
    cases w with
    | zero =>
      obtain rfl : phase = .running job := by simpa using running
      simp [workerOf, own]
    | succ w =>
      have later := ih (n := n + 1) (w := w) (by simpa using running) fun v earlier other found =>
        first (v + 1) (by omega) other (by simpa using found)
      have skips : workerOf id (phase :: rest) n = workerOf id rest (n + 1) := by
        cases phase with
        | running other => simp [workerOf, first 0 (by omega) other rfl]
        | _ => rfl
      rw [skips, later]
      congr 1
      omega

/-- No job is run by two workers. -/
def RunOnce (p : Pool) : Prop :=
  ∀ (v w : Nat) (job other : Job), p.workers[v]? = some (.running job) →
    p.workers[w]? = some (.running other) → job.id = other.id → v = w

theorem worker_of_running {p : Pool} {w : Nat} {job : Job} (once : RunOnce p)
    (running : p.workers[w]? = some (.running job)) : workerOf job.id p.workers 0 = some w := by
  have found := worker_of_first (n := 0) running rfl fun v earlier other found same =>
    absurd (once v w other job found running same) (Nat.ne_of_lt earlier)
  simpa using found

theorem finished_roused (once : RunOnce r.engine.pool) (order : Lasting r.ready)
    (roused : Roused r) (head : r.ready = .errand owner :: rest)
    (ended : standingOf r.engine owner = some .finished) : Roused (r.errandTurn owner) := by
  have turns : ∀ {t}, t ≠ .errand owner → t ∈ r.ready → t ∈ (r.errandTurn owner).ready :=
    errand_turn_turns head order
  have leaves : r.errandTurn owner = r.leaveErrand owner := by
    have ended : (errandOf owner r.engine.errands).map Errand.standing = some .finished := ended
    simp only [Rota.errandTurn, ended]
  have same : (r.errandTurn owner).reception = r.reception :=
    leaves ▸ leave_errand_reception owner
  have engine : (r.errandTurn owner).engine = r.engine := congrArg Reception.engine same
  have receivers : (r.errandTurn owner).receivers = r.receivers := congrArg Reception.line same
  refine ⟨fun w idle => ?_, fun w first queue => ?_, fun w job result ends => ?_,
    fun w job running ended => ?_⟩
  · rw [engine] at idle
    exact (roused.asks w idle).imp (fun lined => receivers ▸ lined) (turns nofun)
  · rw [engine] at queue
    rw [receivers] at first
    exact turns nofun (roused.first w first queue)
  · rw [engine] at ends
    exact turns nofun (roused.ends w job result ends)
  · rw [engine] at running ended
    by_cases own : Owner.job job.id = owner
    · subst own
      have wakes : r.leaveErrand (.job job.id) = r.yield.wake [.worker w] := by
        simp only [Rota.leaveErrand, worker_of_running once running]
      rw [leaves, wakes]
      exact .inl ((wake_turns _ (tail_lasting order)).mpr (.inr List.mem_cons_self))
    · refine (roused.collects w job running ended).imp (turns nofun) (turns ?_)
      rintro ⟨⟩
      exact own rfl

end ErrandTurns

structure Vigilant (r : Rota σ H) : Prop where
  wakeful : Wakeful r
  roused : Roused r

section WorkerTurns
variable {r : Rota σ H} {e : Engine σ H} {w : Nat} {rest : List Thread}

theorem worker_roused (roused : Roused r) (turn : .worker w ∈ r.ready)
    (queue : e.pool.queue = r.engine.pool.queue)
    (workers : ∀ v, v ≠ w → e.pool.workers[v]? = r.engine.pool.workers[v]?)
    (ended : ∀ id, standingOf e (.job id) = some .finished →
      standingOf r.engine (.job id) = some .finished) : Roused { r with engine := e } := by
  have others : ∀ {v phase}, e.pool.workers[v]? = some phase → .worker v ∈ r.ready ∨
      r.engine.pool.workers[v]? = some phase := by
    intro v phase found
    by_cases same : v = w
    · exact .inl (same ▸ turn)
    · exact .inr ((workers v same).symm.trans found)
  refine ⟨fun v idle => ?_, fun v first waiting => ?_, fun v job result ends => ?_,
    fun v job running ends => ?_⟩
  · exact (others idle).elim .inr (roused.asks v)
  · exact roused.first v first (queue ▸ waiting)
  · rcases ends with ends | ends
    · exact (others ends).elim id fun ends => roused.ends v job result (.inl ends)
    · exact (others ends).elim id fun ends => roused.ends v job result (.inr ends)
  · exact (others running).elim .inl fun running =>
      roused.collects v job running (ended job.id ends)

theorem record_vigilant (vigilant : Vigilant r) (turn : .worker w ∈ r.ready) :
    Vigilant (r.play (.pool (.record w))) := by
  cases move : r.engine.move? (.pool (.record w)) with
  | none => simpa [Rota.play, move] using vigilant
  | some e =>
    rw [play_with move]
    cases move_moved move with
    | other action pool plain acted =>
      have step := act_step acted
      generalize entries r.engine.pool (.record w) = es at step
      cases step with
      | record w job result here =>
        refine ⟨pool_wakeful vigilant.wakeful rfl rfl,
          worker_roused vigilant.roused turn rfl (fun v other => ?_) fun _ => id⟩
        exact List.getElem?_set_ne (Ne.symm other)

theorem deliver_vigilant (vigilant : Vigilant r) (turn : .worker w ∈ r.ready) :
    Vigilant (r.play (.pool (.deliver w))) := by
  cases move : r.engine.move? (.pool (.deliver w)) with
  | none => simpa [Rota.play, move] using vigilant
  | some e =>
    rw [play_with move]
    cases move_moved move with
    | other action pool plain acted =>
      have step := act_step acted
      generalize entries r.engine.pool (.deliver w) = es at step
      cases step with
      | deliver w job result here =>
        refine ⟨pool_wakeful vigilant.wakeful rfl rfl,
          worker_roused vigilant.roused turn rfl (fun v other => ?_) fun _ => id⟩
        exact List.getElem?_set_ne (Ne.symm other)

theorem standing_of_removed {owner p : Owner} {standing : Standing}
    (errands : e.errands = removeErrand owner r.engine.errands)
    (stands : standingOf e p = some standing) : standingOf r.engine p = some standing := by
  by_cases same : p = owner
  · subst same
    have absent : errandOf p e.errands = none := by
      rw [errands, errand_of_eq_none_iff, remove_owners]
      simp
    simp [standingOf, absent] at stands
  · simpa [standingOf, errands, errand_of_remove (Ne.symm same)] using stands

theorem finish_vigilant {result : Ended Report} (vigilant : Vigilant r)
    (turn : .worker w ∈ r.ready) : Vigilant (r.play (.pool (.finish w result))) := by
  cases move : r.engine.move? (.pool (.finish w result)) with
  | none => simpa [Rota.play, move] using vigilant
  | some e =>
    rw [play_with move]
    cases move_moved move with
    | collect w result job pool running ended acted =>
      obtain ⟨errand, found, report⟩ := Option.bind_eq_some_iff.mp ended
      have stands := standing_of_found found (report_finished report)
      have step := act_step acted
      generalize entries r.engine.pool (.finish w result) = es at step
      cases step with
      | finish w other result here =>
        refine ⟨remove_wakeful vigilant.wakeful stands rfl rfl,
          worker_roused vigilant.roused turn rfl (fun v other => ?_) fun id => ?_⟩
        · exact List.getElem?_set_ne (Ne.symm other)
        · exact standing_of_removed rfl
    | other action pool plain acted => exact absurd rfl ((plain w).2 result)

theorem worker_yield_vigilant (vigilant : Vigilant r) (head : r.ready = .worker w :: rest)
    (asked : r.engine.pool.workers[w]? = some .idle → w ∈ r.receivers)
    (empty : r.receivers.head? = some w → r.engine.pool.queue = [])
    (ended : ∀ job result, r.engine.pool.workers[w]? ≠ some (.ended job result))
    (recorded : ∀ job result, r.engine.pool.workers[w]? ≠ some (.recorded job result))
    (running : ∀ job, r.engine.pool.workers[w]? = some (.running job) →
      standingOf r.engine (.job job.id) ≠ some .finished) : Vigilant r.yield := by
  obtain ⟨wakeful, roused⟩ := vigilant
  have behind : ∀ {v}, .worker v ∈ r.ready → v = w ∨ .worker v ∈ r.ready.tail := by
    intro v turn
    simpa [head] using turn
  refine ⟨done_wakeful wakeful head nofun, fun v idle => ?_, fun v first waiting => ?_,
    fun v job result ends => ?_, fun v job runs ends => ?_⟩
  · rcases roused.asks v idle with lined | turn
    · exact .inl lined
    · refine (behind turn).imp_left ?_
      rintro rfl
      exact asked idle
  · refine (behind (roused.first v first waiting)).resolve_left ?_
    rintro rfl
    exact waiting (empty first)
  · refine (behind (roused.ends v job result ends)).resolve_left ?_
    rintro rfl
    exact ends.elim (ended job result) (recorded job result)
  · rcases roused.collects v job runs ends with turn | turn
    · refine .inl ((behind turn).resolve_left ?_)
      rintro rfl
      exact running job runs ends
    · exact .inr (by simpa [Rota.yield, head] using turn)

theorem ask_vigilant (vigilant : Vigilant r) (turn : .worker w ∈ r.ready) :
    Vigilant { r with receivers := r.receivers ++ [w] } := by
  obtain ⟨wakeful, roused⟩ := vigilant
  refine ⟨beside_wakeful wakeful _ _ _, fun v idle => ?_, fun v first waiting => ?_, roused.ends,
    roused.collects⟩
  · exact (roused.asks v idle).imp_left (List.mem_append_left [w])
  · cases line : r.receivers with
    | nil =>
      obtain rfl : w = v := by simpa [line] using first
      exact turn
    | cons u others =>
      refine roused.first v ?_ waiting
      simpa [line] using first

section Begin
variable {job : Job} {jobs : List Job}

theorem begun_stands (free : errandOf (.job job.id) r.engine.errands = none) :
    standingOf (r.engine.begun w job jobs) (.job job.id) = some .ready := by
  have found : errandOf (.job job.id) (r.engine.begun w job jobs).errands = some _ :=
    errand_of_new (.batch job.id (.ready (dispatch r.engine.registry job.batch))) free
  rw [standingOf, found]
  rfl

theorem begun_others {id : Uuid} (apart : id ≠ job.id) :
    standingOf (r.engine.begun w job jobs) (.job id) = standingOf r.engine (.job id) := by
  have other : (Errand.batch job.id (.ready (dispatch r.engine.registry job.batch))).owner ≠
      .job id := by simpa [Errand.owner] using apart.symm
  exact congrArg (Option.map Errand.standing) (errand_of_other _ other)

theorem begin_wakes (wakeful : Wakeful r) (head : r.ready = .worker w :: rest)
    (idle : r.engine.pool.workers[w]? = some .idle) (queue : r.engine.pool.queue = job :: jobs)
    (free : errandOf (.job job.id) r.engine.errands = none) : Wakeful (r.receive w) := by
  have yields := beside_wakeful (done_wakeful wakeful head nofun) r.receivers.tail r.gate
    r.allowance
  have roused : Wakeful (({ r with receivers := r.receivers.tail }.yield).wakeReceiver) :=
    rouse_wakeful yields (by simp)
  rw [Rota.wakeReceiver, wake_eq] at roused
  have begins := begin_wakeful (e := r.engine.begun w job jobs)
    (.batch job.id (.ready (dispatch r.engine.registry job.batch))) roused free rfl rfl rfl
  rw [wake_eq] at begins
  rw [receive_begun idle queue]
  exact begins

theorem begin_rouses (order : Lasting r.ready) (roused : Roused r)
    (head : r.ready = .worker w :: rest) (idle : r.engine.pool.workers[w]? = some .idle)
    (first : r.receivers.head? = some w) (queue : r.engine.pool.queue = job :: jobs)
    (free : errandOf (.job job.id) r.engine.errands = none) : Roused (r.receive w) := by
  obtain ⟨others, line⟩ := head_of_line first
  have tail := woken_lasting (r.receivers.tail.head?.map Thread.worker).toList (tail_lasting order)
  have turns : ∀ t, t ∈ (r.receive w).ready ↔ (t ∈ r.ready.tail ∨
      t ∈ (r.receivers.tail.head?.map Thread.worker).toList) ∨ t ∈ [.errand (.job job.id)] := by
    intro t
    rw [receive_begun idle queue, ← tail.2]
    exact (woken_lasting _ tail.1).2 t
  have behind : ∀ {t}, t ≠ .worker w → t ∈ r.ready → t ∈ (r.receive w).ready := by
    intro t other turn
    refine (turns t).mpr (.inl (.inl ?_))
    simpa [head, other] using turn
  have engine : (r.receive w).engine = r.engine.begun w job jobs := by
    rw [receive_begun idle queue]
  have receivers : (r.receive w).receivers = others := by
    rw [receive_begun idle queue]
    simp [line]
  have known := (List.getElem?_eq_some_iff.mp idle).1
  have own : (r.engine.begun w job jobs).pool.workers[w]? = some (.running job) := by
    simp [begun, known]
  have same : ∀ {v phase}, (r.engine.begun w job jobs).pool.workers[v]? = some phase → v ≠ w →
      r.engine.pool.workers[v]? = some phase :=
    fun found other => (List.getElem?_set_ne (Ne.symm other)).symm.trans found
  refine ⟨fun v rests => ?_, fun v next waiting => ?_, fun v other result ends => ?_,
    fun v other runs ends => ?_⟩
  · rw [engine] at rests
    have apart : v ≠ w := by
      rintro rfl
      cases own.symm.trans rests
    rcases roused.asks v (same rests apart) with lined | turn
    · rw [line] at lined
      exact .inl (receivers ▸ (List.mem_cons.mp lined).resolve_left apart)
    · exact .inr (behind (by simpa using apart) turn)
  · refine (turns _).mpr (.inl (.inr ?_))
    rw [receivers] at next
    simp [line, next]
  · rw [engine] at ends
    have apart : v ≠ w := by
      rintro rfl
      rcases ends with ends | ends <;> cases own.symm.trans ends
    refine behind (by simpa using apart) (roused.ends v other result ?_)
    exact ends.imp (same · apart) (same · apart)
  · rw [engine] at runs ends
    have elder : other.id ≠ job.id := by
      intro new
      rw [new, begun_stands free] at ends
      cases ends
    have apart : v ≠ w := by
      rintro rfl
      cases own.symm.trans runs
      exact elder rfl
    have ended := begun_others elder ▸ ends
    exact (roused.collects v other (same runs apart) ended).imp (behind (by simpa using apart))
      (behind (by simp))

end Begin

theorem unreported_unfinished {id : Uuid}
    (unreported : (errandOf (.job id) e.errands).bind Errand.report? = none) :
    standingOf e (.job id) ≠ some .finished := by
  intro ended
  obtain ⟨errand, found, finished⟩ := standing_of_some ended
  obtain ⟨stage, rfl⟩ := errand_of_job (errand_of_some found).2
  rw [found] at unreported
  cases stage with
  | finished result => cases unreported
  | _ => cases finished

theorem worker_turn_vigilant (vigilant : Vigilant r) (tidy : Tidy r.receivers r.engine.pool)
    (free : ∀ job ∈ r.engine.pool.queue, errandOf (.job job.id) r.engine.errands = none)
    (head : r.ready = .worker w :: rest) : Vigilant (r.workerTurn w) := by
  have turn : .worker w ∈ r.ready := by simp [head]
  have yields := worker_yield_vigilant vigilant head
  have unlined : ∀ {phase}, r.engine.pool.workers[w]? = some phase → phase ≠ .idle →
      r.receivers.head? ≠ some w := by
    intro phase here busy first
    obtain ⟨others, line⟩ := head_of_line first
    exact busy (Option.some.inj (here.symm.trans (tidy.idle w (by simp [line]))))
  unfold Rota.workerTurn
  split
  · rename_i idle
    split
    · rename_i lined
      split
      · rename_i first
        cases queue : r.engine.pool.queue with
        | nil =>
          rw [receive_waits tidy.accepting queue]
          exact yields (fun _ => lined) (fun _ => queue) (by simp [idle]) (by simp [idle])
            (by simp [idle])
        | cons job jobs =>
          have free := free job (by simp [queue])
          exact ⟨begin_wakes vigilant.wakeful head idle queue free,
            begin_rouses vigilant.wakeful.order vigilant.roused head idle first queue free⟩
      · rename_i behind
        exact yields (fun _ => lined) (fun first => absurd first behind) (by simp [idle])
          (by simp [idle]) (by simp [idle])
    · exact ask_vigilant vigilant turn
  · rename_i job taken
    exact absurd taken (tidy.untaken w job)
  · rename_i job running
    split
    · exact finish_vigilant vigilant turn
    · rename_i unreported
      refine yields (by simp [running]) (fun first => absurd first (unlined running (by simp)))
        (by simp [running]) (by simp [running]) fun other runs => ?_
      cases running.symm.trans runs
      exact unreported_unfinished unreported
  · exact record_vigilant vigilant turn
  · exact deliver_vigilant vigilant turn
  · rename_i gone
    exact yields (by simp [gone]) (fun first => absurd first (unlined gone (by simp)))
      (by simp [gone]) (by simp [gone]) (by simp [gone])
  · rename_i nobody
    refine yields (by simp [nobody]) (fun first => ?_) (by simp [nobody]) (by simp [nobody])
      (by simp [nobody])
    obtain ⟨others, line⟩ := head_of_line first
    cases nobody.symm.trans (tidy.idle w (by simp [line]))

end WorkerTurns
end CommandGateway.Engine
