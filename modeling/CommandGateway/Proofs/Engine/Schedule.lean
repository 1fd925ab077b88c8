import CommandGateway.Proofs.Engine.Calls
import CommandGateway.Proofs.Engine.Reception

/- A rota before its queue is closed. Every step of it is some turns of its reception, so whatever
   holds after every run of a reception holds of a rota at any time. -/
namespace CommandGateway.Engine

open Pool

variable {σ H : Type}

def standingOf (e : Engine σ H) (owner : Owner) : Option Standing :=
  (errandOf owner e.errands).map Errand.standing

def Rota.reception (r : Rota σ H) : Reception σ H := ⟨r.engine, r.receivers⟩

def Reception.Turn.isPatient : Reception.Turn → Bool
  | .move (.pool .close) => false
  | .move (.giveUp _) => false
  | _ => true

/-- An open queue at which nothing is left half done: whoever stands in line is idle, and no worker
    has a job that it has not begun. -/
structure Tidy (line : List Nat) (p : Pool) : Prop where
  accepting : p.accepting = true
  once : line.Nodup
  idle : ∀ w ∈ line, p.workers[w]? = some .idle
  untaken : ∀ (w : Nat) (job : Job), p.workers[w]? ≠ some (.taken job)

/-- What a reception becomes by patient turns that bring the batches with these ids and leave
    nothing half done. -/
structure Leads (ids : List Uuid) (r q : Reception σ H) : Prop where
  turns : ∃ turns : List Reception.Turn, (∀ t ∈ turns, t.isPatient) ∧ r.run? turns = some q ∧
    issued (poolActions (movesOf turns)) = ids
  tidy : Tidy r.line r.engine.pool → Tidy q.line q.engine.pool

section Leading
variable {r q s : Reception σ H} {ids more : List Uuid} {turns : List Reception.Turn}
  {t : Reception.Turn}

theorem run_turns_append {rest : List Reception.Turn} (run : r.run? turns = some q) :
    r.run? (turns ++ rest) = q.run? rest := by
  induction turns generalizing r with
  | nil =>
    cases run
    rfl
  | cons t others ih =>
    simp only [List.cons_append, Reception.run?] at run ⊢
    split at run
    · rename_i next possible
      rw [ih run]
    · cases run

theorem busy_tidy {line : List Nat} {p p' : Pool} {w : Nat} {phase after : Phase}
    (here : p.workers[w]? = some phase) (busy : phase ≠ .idle)
    (begun : ∀ job, after ≠ .taken job) (accepting : p'.accepting = p.accepting)
    (workers : p'.workers = p.workers.set w after) (tidy : Tidy line p) : Tidy line p' := by
  have apart : ∀ v ∈ line, w ≠ v := by
    rintro v member rfl
    exact busy (Option.some.inj (here.symm.trans (tidy.idle w member)))
  refine ⟨accepting.trans tidy.accepting, tidy.once, ?_, ?_⟩
  · intro v member
    simpa [workers, List.getElem?_set_ne (apart v member)] using tidy.idle v member
  · intro v job taken
    rw [workers] at taken
    by_cases same : w = v
    · subst same
      have known := (List.getElem?_eq_some_iff.mp here).1
      simp [known, begun] at taken
    · rw [List.getElem?_set_ne same] at taken
      exact tidy.untaken v job taken

theorem step_tidy {line : List Nat} {p p' : Pool} {a : Action} {es : List Entry}
    (step : Pool.Step p a es p') (stays : a ≠ .close) (calm : ∀ w, a ≠ .take w)
    (tidy : Tidy line p) : Tidy line p' := by
  cases step with
  | take w => exact absurd rfl (calm w)
  | mark w job here => exact absurd here (tidy.untaken w job)
  | finish w job result here | record w job result here | deliver w job result here =>
    exact busy_tidy here (by simp) (by simp) rfl rfl tidy
  | leave w idle drained shut => simp [isOpen, tidy.accepting] at shut
  | close => exact absurd rfl stays
  | _ => exact ⟨tidy.accepting, tidy.once, tidy.idle, tidy.untaken⟩

theorem turned_tidy (turned : Turned r t q) (patient : t.isPatient)
    (calm : ∀ w, t ≠ .move (.pool (.take w))) (tidy : Tidy r.line r.engine.pool) :
    Tidy q.line q.engine.pool := by
  cases turned with
  | ask w idle out =>
    refine ⟨tidy.accepting, ?_, ?_, tidy.untaken⟩
    · exact (List.perm_append_singleton w r.line).nodup_iff.mpr
        (List.nodup_cons.mpr ⟨out, tidy.once⟩)
    · intro v member
      rcases List.mem_append.mp member with here | new
      · exact tidy.idle v here
      · exact List.mem_singleton.mp new ▸ idle
  | pass w rest phase here busy head =>
    rw [head] at tidy
    exact ⟨tidy.accepting, tidy.once.of_cons,
      fun v member => tidy.idle v (List.mem_cons_of_mem w member), tidy.untaken⟩
  | move m e may move =>
    have acted := moved_pool (move_moved move)
    cases m with
    | pool action =>
      exact step_tidy (act_step acted) (by rintro rfl; cases patient)
        (fun w same => calm w (by rw [same])) tidy
    | request | call | giveUp | step =>
      simp only at acted
      exact acted.symm ▸ tidy

theorem leads_here (r : Reception σ H) : Leads [] r r := ⟨⟨[], nofun, rfl, rfl⟩, id⟩

theorem leads_turn (patient : t.isPatient) (calm : ∀ w, t ≠ .move (.pool (.take w)))
    (turn : r.turn? t = some q) : Leads (issued (poolActions (movesOf [t]))) r q := by
  refine ⟨⟨[t], by simpa using patient, ?_, rfl⟩, turned_tidy (turn_turned turn) patient calm⟩
  simp only [Reception.run?, turn]

theorem leads_trans (first : Leads ids r q) (second : Leads more q s) :
    Leads (ids ++ more) r s := by
  obtain ⟨⟨turns, patient, run, brings⟩, tidy⟩ := first
  obtain ⟨⟨rest, patient', run', brings'⟩, tidy'⟩ := second
  refine ⟨⟨turns ++ rest, ?_, (run_turns_append run).trans run', ?_⟩, tidy' ∘ tidy⟩
  · intro t member
    exact (List.mem_append.mp member).elim (patient t) (patient' t)
  · rw [← brings, ← brings']
    simp [movesOf, poolActions, issued]

end Leading

section Playing
variable {r : Rota σ H} {m : Move}

def woken (threads : List Thread) : List Thread → List Thread
  | [] => threads.foldl (fun ready t => enqueue t ready) []
  | t :: rest => t :: (threads.filter (· ≠ t)).foldl (fun ready t => enqueue t ready) rest

theorem wake_eq (threads : List Thread) :
    r.wake threads = { r with ready := woken threads r.ready } := by
  unfold Rota.wake woken
  split <;> simp_all

theorem wake_reception (threads : List Thread) : (r.wake threads).reception = r.reception := by
  rw [wake_eq]
  rfl

/-- A move that is possible is a turn, and one that is not changes nothing. -/
theorem play_leads (may : mayMove r.receivers m) (patient : (Reception.Turn.move m).isPatient)
    (calm : ∀ w, m ≠ .pool (.take w)) (quiet : issued (poolActions [m]) = []) :
    Leads [] r.reception (r.play m).reception := by
  cases move : r.engine.move? m with
  | none =>
    have same : (r.play m).reception = r.reception := by simp [Rota.reception, Rota.play, move]
    exact same ▸ leads_here _
  | some e =>
    refine quiet ▸ leads_turn (t := .move m) patient (by simpa using calm) ?_
    simp [Reception.turn?, Rota.reception, Rota.play, may, move]

theorem step_leads (owner : Owner) (step : Step) :
    Leads [] r.reception (r.play (.step owner step)).reception :=
  play_leads rfl rfl nofun rfl

theorem leave_desk_reception (service : String) (succeeds : Bool) :
    (r.leaveDesk service succeeds).reception = r.reception := by
  unfold Rota.leaveDesk
  split
  · rfl
  · split
    · exact wake_reception _
    · split
      · rfl
      · exact wake_reception _

theorem look_up_reception (owner : Owner) :
    (r.lookUp owner).reception = (r.play (.step owner .lookUp)).reception := by
  simp only [Rota.lookUp]
  split
  · split <;> rfl
  · rfl

theorem queue_up_reception (owner : Owner) (service : String) :
    (r.queueUp owner service).reception = r.reception ∨
      (r.queueUp owner service).reception = (r.play (.step owner .lookUp)).reception := by
  unfold Rota.queueUp
  split
  · exact .inr (look_up_reception owner)
  · split
    · exact .inr (look_up_reception (r := r.setDesk service _) owner)
    · split
      · exact .inr (look_up_reception owner)
      · exact .inl rfl

theorem speak_reception (owner : Owner) (text : String) :
    (r.speak owner text).reception = r.reception ∨
      (r.speak owner text).reception = (r.play (.step owner .hear)).reception := by
  unfold Rota.speak
  split
  · exact .inr rfl
  · split
    · exact .inr rfl
    · exact .inl rfl

theorem leave_errand_reception (owner : Owner) : (r.leaveErrand owner).reception = r.reception := by
  cases owner with
  | job id =>
    simp only [Rota.leaveErrand]
    split
    · exact wake_reception _
    · rfl
  | request | caller => rfl

theorem errand_turn_reception (owner : Owner) :
    (r.errandTurn owner).reception = r.reception ∨ ∃ standing step,
      standingOf r.engine owner = some standing ∧ standing.step? = some step ∧
        (r.errandTurn owner).reception = (r.play (.step owner step)).reception := by
  unfold Rota.errandTurn
  split
  · exact .inl rfl
  · rename_i stands
    exact .inr ⟨_, _, stands, rfl, rfl⟩
  · rename_i service stands
    exact (queue_up_reception owner service).imp_right fun same => ⟨_, _, stands, rfl, same⟩
  · rename_i service succeeds stands
    exact .inr ⟨_, _, stands, rfl, leave_desk_reception service succeeds⟩
  · rename_i text stands
    exact (speak_reception owner text).imp_right fun same => ⟨_, _, stands, rfl, same⟩
  · exact .inl (leave_errand_reception owner)

theorem errand_turn_leads (owner : Owner) :
    Leads [] r.reception (r.errandTurn owner).reception := by
  rcases errand_turn_reception (r := r) owner with same | ⟨standing, step, -, -, same⟩
  · rw [same]
    exact leads_here _
  · rw [same]
    exact step_leads owner step

theorem release_leads (text : String) : Leads [] r.reception (r.release text).reception := by
  unfold Rota.release
  split
  · rw [wake_reception]
    exact step_leads (r := { r with stalled := _ }) _ .hear
  · exact leads_here _

theorem enter_leads (id : Uuid) (batch : Batch) :
    Leads [id] r.reception (r.play (.pool (.enter id batch))).reception :=
  leads_turn (t := .move (.pool (.enter id batch))) rfl nofun rfl

theorem submit_leads (id : Uuid) (batch : Batch) :
    Leads [id] r.reception (r.submit id batch).2.reception := by
  have later (r : Rota σ H) (call : Nat) :
      Leads [] r.reception (([.track call, .send call, .retract call] : List Action).foldl
        (fun r action => r.play (.pool action)) r).reception :=
    leads_trans (play_leads rfl rfl (by simp) rfl)
      (leads_trans (play_leads rfl rfl (by simp) rfl) (play_leads rfl rfl (by simp) rfl))
  have whole := leads_trans (enter_leads (r := r) id batch)
    (later _ r.engine.pool.submissions.length)
  simp only [Rota.submit]
  split
  · rw [Rota.wakeReceiver, wake_reception]
    exact whole
  · exact whole

end Playing

def took (e : Engine σ H) (w : Nat) (job : Job) (jobs : List Job) : Engine σ H :=
  { e with pool := { e.pool with queue := jobs, workers := e.pool.workers.set w (.taken job) } }

def begun (e : Engine σ H) (w : Nat) (job : Job) (jobs : List Job) : Engine σ H :=
  { e with
    pool := { e.pool with
      queue := jobs
      tracker := e.pool.tracker.set job.id .running
      workers := e.pool.workers.set w (.running job) }
    errands := e.errands ++ [.batch job.id (.ready (dispatch e.registry job.batch))] }

section Receiving
variable {r : Rota σ H} {e : Engine σ H} {w : Nat} {job : Job} {jobs : List Job}

theorem take_move (idle : e.pool.workers[w]? = some .idle) (queue : e.pool.queue = job :: jobs) :
    e.move? (.pool (.take w)) = some (e.took w job jobs) := by
  simp only [move?, act?, Pool.act?, take?, idle, queue]
  rfl

theorem took_worker (idle : e.pool.workers[w]? = some .idle) :
    (e.took w job jobs).pool.workers[w]? = some (.taken job) := by
  have known := (List.getElem?_eq_some_iff.mp idle).1
  simp [took, known]

theorem mark_move (idle : e.pool.workers[w]? = some .idle) :
    (e.took w job jobs).move? (.pool (.mark w)) = some (e.begun w job jobs) := by
  simp only [move?, act?, Pool.act?, mark?, took_worker idle]
  simp [took, begun, setWorker]

theorem wake_with (e : Engine σ H) (threads : List Thread) :
    { r with engine := e }.wake threads = { r.wake threads with engine := e } := by
  rw [wake_eq, wake_eq]

theorem play_with {m : Move} (move : r.engine.move? m = some e) :
    r.play m = { r with engine := e } := by
  rw [Rota.play, move]
  rfl

theorem receive_begun (idle : r.engine.pool.workers[w]? = some .idle)
    (queue : r.engine.pool.queue = job :: jobs) :
    r.receive w = { r with
      engine := r.engine.begun w job jobs
      receivers := r.receivers.tail
      ready := woken [.errand (.job job.id)]
        (woken (r.receivers.tail.head?.map Thread.worker).toList r.ready.tail) } := by
  let next : Rota σ H := { r with receivers := r.receivers.tail }
  have turns : r.receive w = ((next.yield.play (.pool (.take w))).wakeReceiver.play
      (.pool (.mark w))).wake [.errand (.job job.id)] := by
    simp only [Rota.receive, queue]
    rfl
  have takes : next.yield.play (.pool (.take w)) =
      { next.yield with engine := r.engine.took w job jobs } := play_with (take_move idle queue)
  have marks : ({ next.yield with engine := r.engine.took w job jobs }.wakeReceiver).play
      (.pool (.mark w)) = { next.yield.wakeReceiver with engine := r.engine.begun w job jobs } := by
    rw [Rota.wakeReceiver, wake_with]
    exact play_with (mark_move idle)
  rw [turns, takes, marks, wake_eq, Rota.wakeReceiver, wake_eq]
  rfl

theorem receive_waits (accepting : r.engine.pool.accepting = true)
    (queue : r.engine.pool.queue = []) : r.receive w = r.yield := by
  simp only [Rota.receive, queue, if_pos accepting]

theorem begun_tidy {rest : List Nat} (tidy : Tidy (w :: rest) e.pool) :
    Tidy rest (e.begun w job jobs).pool := by
  have out := List.nodup_cons.mp tidy.once
  have others : ∀ v, w ≠ v → (e.begun w job jobs).pool.workers[v]? = e.pool.workers[v]? :=
    fun v other => List.getElem?_set_ne other
  refine ⟨tidy.accepting, out.2, ?_, ?_⟩
  · intro v member
    have other : w ≠ v := fun same => out.1 (same ▸ member)
    exact (others v other).trans (tidy.idle v (List.mem_cons_of_mem w member))
  · intro v job taken
    by_cases same : w = v
    · subst same
      have known := (List.getElem?_eq_some_iff.mp (tidy.idle w List.mem_cons_self)).1
      simp [begun, known] at taken
    · exact tidy.untaken v job (others v same ▸ taken)

theorem receive_leads (tidy : Tidy r.receivers r.engine.pool)
    (head : r.receivers.head? = some w) : Leads [] r.reception (r.receive w).reception := by
  obtain ⟨rest, line⟩ := head_of_line head
  have idle := tidy.idle w (by simp [line])
  have out : w ∉ rest := (List.nodup_cons.mp (line ▸ tidy.once)).1
  cases queue : r.engine.pool.queue with
  | nil =>
    rw [receive_waits tidy.accepting queue]
    exact leads_here _
  | cons job jobs =>
    let took : Reception σ H := ⟨r.engine.took w job jobs, w :: rest⟩
    have takes : r.reception.turn? (.move (.pool (.take w))) = some took := by
      simp [Reception.turn?, mayMove, Rota.reception, line, take_move idle queue, took]
    have passes : took.turn? (.pass w) = some ⟨r.engine.took w job jobs, rest⟩ := by
      simp [Reception.turn?, took, took_worker idle, isIdle]
    have marks : (⟨r.engine.took w job jobs, rest⟩ : Reception σ H).turn?
        (.move (.pool (.mark w))) = some ⟨r.engine.begun w job jobs, rest⟩ := by
      simp [Reception.turn?, mayMove, out, mark_move idle]
    have same : (r.receive w).reception = ⟨r.engine.begun w job jobs, rest⟩ := by
      rw [receive_begun idle queue]
      simp [Rota.reception, line]
    rw [same]
    refine ⟨⟨[.move (.pool (.take w)), .pass w, .move (.pool (.mark w))], ?_, ?_, rfl⟩, ?_⟩
    · simp [Reception.Turn.isPatient]
    · simp only [Reception.run?, takes, passes, marks]
    · exact fun tidy => begun_tidy (line ▸ tidy)

theorem worker_turn_leads (tidy : Tidy r.receivers r.engine.pool) (w : Nat) :
    Leads [] r.reception (r.workerTurn w).reception := by
  unfold Rota.workerTurn
  split
  · rename_i idle
    split
    · split
      · rename_i head
        exact receive_leads tidy head
      · exact leads_here _
    · rename_i out
      refine leads_turn (t := .ask w) rfl (by simp) ?_
      simp [Reception.turn?, Rota.reception, idle, isIdle, out]
  · rename_i job taken
    exact absurd taken (tidy.untaken w job)
  · split
    · exact play_leads rfl rfl (by simp) rfl
    · exact leads_here _
  · exact play_leads rfl rfl (by simp) rfl
  · exact play_leads rfl rfl (by simp) rfl
  · exact leads_here _
  · exact leads_here _

end Receiving

/-- What a rota becomes before its queue is closed, by its own turns and by calls from outside that
    bring the batches with these ids. A call has a number that none has that is under way. -/
inductive Running (first : Rota σ H) : List Uuid → Rota σ H → Prop
  | start : Running first [] first
  | turn {ids : List Uuid} {r q : Rota σ H} (running : Running first ids r)
      (turn : r.turn? = some q) : Running first ids q
  | submit {ids : List Uuid} {r : Rota σ H} (running : Running first ids r) (id : Uuid)
      (batch : Batch) : Running first (ids ++ [id]) (r.submit id batch).2
  | dropTicket {ids : List Uuid} {r : Rota σ H} (running : Running first ids r) (id : Uuid) :
      Running first ids (r.dropTicket id)
  | request {ids : List Uuid} {r : Rota σ H} (running : Running first ids r) (n : Nat)
      (body : Bytes) (free : errandOf (.request n) r.engine.errands = none) :
      Running first ids (r.request n body)
  | call {ids : List Uuid} {r : Rota σ H} (running : Running first ids r) (n : Nat)
      (service : String) (free : errandOf (.caller n) r.engine.errands = none) :
      Running first ids (r.call n service)
  | release {ids : List Uuid} {r : Rota σ H} (running : Running first ids r) (text : String) :
      Running first ids (r.release text)
  | openGate {ids : List Uuid} {r : Rota σ H} (running : Running first ids r) :
      Running first ids r.openGate

section Runs
variable {r q first : Rota σ H} {ids : List Uuid}

theorem turn_leads (tidy : Tidy r.receivers r.engine.pool) (turn : r.turn? = some q) :
    Leads [] r.reception q.reception := by
  unfold Rota.turn? at turn
  split at turn
  · split at turn
    · cases turn
    · cases turn
      rw [wake_reception]
      exact leads_here _
  · cases turn
    exact errand_turn_leads _
  · cases turn
    exact worker_turn_leads tidy _

/-- A rota does nothing that its reception could not do. -/
theorem running_leads (tidy : Tidy first.receivers first.engine.pool)
    (running : Running first ids r) : Leads ids first.reception r.reception := by
  induction running with
  | start => exact leads_here _
  | @turn ids r q running turn ih =>
    exact List.append_nil ids ▸ leads_trans ih (turn_leads (ih.tidy tidy) turn)
  | submit running id batch ih => exact leads_trans ih (submit_leads id batch)
  | @dropTicket ids r running id ih =>
    exact List.append_nil ids ▸ leads_trans ih (play_leads rfl rfl (by simp) rfl)
  | @request ids r running n body free ih =>
    rw [Rota.request, wake_reception]
    have starts := play_leads (r := r) (m := .request n body) rfl rfl (by simp) rfl
    exact List.append_nil ids ▸ leads_trans ih starts
  | @call ids r running n service free ih =>
    rw [Rota.call, wake_reception]
    have starts := play_leads (r := r) (m := .call n service) rfl rfl (by simp) rfl
    exact List.append_nil ids ▸ leads_trans ih starts
  | @release ids r running text ih =>
    exact List.append_nil ids ▸ leads_trans ih (release_leads text)
  | @openGate ids r running ih =>
    rw [Rota.openGate, wake_reception]
    exact List.append_nil ids ▸ leads_trans ih (leads_here _)

end Runs
end CommandGateway.Engine
