import CommandGateway.Proofs.Engine.Conservation
import CommandGateway.Proofs.Engine.Rousing

/- A rota at rest. Neither workers nor errands are forgotten, so when nobody has a turn nothing can
   go on by itself. -/
namespace CommandGateway.Engine

open Pool

variable {σ H : Type}

section Calls
variable {r q : Rota σ H}

theorem roused_of (roused : Roused r)
    (workers : q.engine.pool.workers = r.engine.pool.workers)
    (receivers : q.receivers = r.receivers)
    (turns : ∀ t ∈ r.ready, t ∈ q.ready)
    (queue : q.engine.pool.queue ≠ [] → r.engine.pool.queue ≠ [] ∨
      ∀ w, r.receivers.head? = some w → .worker w ∈ q.ready)
    (ended : ∀ id, standingOf q.engine (.job id) = some .finished →
      standingOf r.engine (.job id) = some .finished) : Roused q := by
  refine ⟨fun w idle => ?_, fun w first waiting => ?_, fun w job result ends => ?_,
    fun w job running ends => ?_⟩
  · rw [receivers]
    exact (roused.asks w (workers ▸ idle)).imp_right (turns _)
  · rw [receivers] at first
    exact (queue waiting).elim (fun before => turns _ (roused.first w first before))
      fun woken => woken w first
  · exact turns _ (roused.ends w job result (workers ▸ ends))
  · exact (roused.collects w job (workers ▸ running) (ended job.id ends)).imp (turns _) (turns _)

theorem wake_roused (threads : List Thread) (order : Lasting r.ready) (roused : Roused r) :
    Roused (r.wake threads) := by
  rw [wake_eq]
  exact roused_of roused rfl rfl
    (fun t turn => ((woken_lasting threads order).2 t).mpr (.inl turn)) .inl fun _ => id

theorem answers_vigilant (vigilant : Vigilant r) :
    Vigilant ({ r with expecting := [] }.wake (r.expecting.map .errand)) := by
  refine ⟨answers_wakeful vigilant.wakeful, ?_⟩
  have roused : Roused { r with expecting := [] } :=
    roused_of vigilant.roused rfl rfl (fun _ => id) .inl fun _ => id
  exact wake_roused _ vigilant.wakeful.order roused

theorem open_gate_vigilant (vigilant : Vigilant r) : Vigilant r.openGate := by
  refine ⟨open_gate_wakeful vigilant.wakeful, ?_⟩
  have roused : Roused { r with gate := { r.gate with isOpen := true }, stalled := [] } :=
    roused_of vigilant.roused rfl rfl (fun _ => id) .inl fun _ => id
  exact wake_roused _ vigilant.wakeful.order roused

theorem release_vigilant (online : Online r.engine) (vigilant : Vigilant r) (text : String) :
    Vigilant (r.release text) := by
  refine ⟨release_wakeful online vigilant.wakeful text, ?_⟩
  unfold Rota.release
  split
  · rename_i owner said held
    let freed : Rota σ H := { r with stalled := r.stalled.filter (·.1 ≠ owner) }
    obtain ⟨pool, others⟩ := play_apart (r := freed) owner .hear
    have roused : Roused (freed.play (.step owner .hear)) := by
      refine roused_of vigilant.roused (by rw [pool]) rfl (fun _ => id)
        (fun waiting => .inl (pool ▸ waiting)) fun id ended => ?_
      by_cases own : Owner.job id = owner
      · by_contra unfinished
        exact play_unfinished (r := freed) .hear nofun (own ▸ unfinished) (own ▸ ended)
      · exact (others _ own).symm.trans ended
    exact wake_roused _ vigilant.wakeful.order roused
  · exact roused_of vigilant.roused rfl rfl (fun _ => id) .inl fun _ => id

theorem begin_roused (new : Errand H) {e : Engine σ H} (order : Lasting r.ready) (roused : Roused r)
    (ready : new.standing = .ready) (free : errandOf new.owner r.engine.errands = none)
    (pool : e.pool = r.engine.pool) (errands : e.errands = r.engine.errands ++ [new]) :
    Roused ({ r with engine := e }.wake [.errand new.owner]) := by
  have begun : Roused { r with engine := e } := by
    refine roused_of roused (by rw [pool]) rfl (fun _ => id) (fun waiting => .inl (pool ▸ waiting))
      fun id ended => ?_
    by_cases own : new.owner = .job id
    · rw [standingOf, errands, ← own, errand_of_new new free, Option.map_some, ready] at ended
      cases ended
    · rwa [standingOf, errands, errand_of_other new own] at ended
  exact wake_roused _ order begun

theorem start_vigilant (new : Errand H) {m : Move} (vigilant : Vigilant r)
    (move : r.engine.move? m = some { r.engine with errands := r.engine.errands ++ [new] })
    (ready : new.standing = .ready) (free : errandOf new.owner r.engine.errands = none)
    (steps : Nat) : Vigilant (((r.play m).allow steps).wake [.errand new.owner]) := by
  have wakeful := beside_wakeful vigilant.wakeful r.receivers r.gate (r.allowance + steps)
  have roused : Roused { r with allowance := r.allowance + steps } :=
    roused_of vigilant.roused rfl rfl (fun _ => id) .inl fun _ => id
  rw [play_with move]
  exact ⟨begin_wakeful new wakeful free ready rfl rfl,
    begin_roused new wakeful.order roused ready free rfl rfl⟩

theorem request_vigilant (vigilant : Vigilant r) (n : Nat) (body : Bytes)
    (free : errandOf (.request n) r.engine.errands = none) : Vigilant (r.request n body) :=
  start_vigilant (.payload n (.ready (dispatchPayload r.engine.registry body))) vigilant
    (by simp only [move?, free]) rfl free _

theorem call_vigilant (vigilant : Vigilant r) (n : Nat) (service : String)
    (free : errandOf (.caller n) r.engine.errands = none) : Vigilant (r.call n service) :=
  start_vigilant (.handle n (.ready (.acquire service .done))) vigilant
    (by simp only [move?, free]) rfl free _

theorem drop_ticket_vigilant (vigilant : Vigilant r) (id : Uuid) : Vigilant (r.dropTicket id) :=
  ⟨pool_wakeful vigilant.wakeful rfl rfl,
    roused_of vigilant.roused rfl rfl (fun _ turn => turn) .inl fun _ ended => ended⟩

theorem play_all_with (actions : List Action) :
    actions.foldl (fun r action => r.play (.pool action)) r =
      { r with engine := (actions.foldl (fun r action => r.play (.pool action)) r).engine } := by
  induction actions generalizing r with
  | nil => rfl
  | cons action rest ih =>
    rw [List.foldl_cons, ih]
    rfl

theorem submit_with (id : Uuid) (batch : Batch) :
    let brought : Rota σ H := { r with
      engine := { r.engine with pool := submitted r.engine.pool id batch } }
    (∃ e, (r.submit id batch).1 = .error e ∧ (r.submit id batch).2 = brought) ∨
      (r.submit id batch).1 = .ok () ∧
        (r.submit id batch).2 = (brought.allow (stepsOfBatch batch.size)).wakeReceiver := by
  have plain : ∀ action ∈ submission r.engine.pool.submissions.length id batch, Plain action :=
    fun action => submission_plain
  have whole := play_all_with (r := r) (submission r.engine.pool.submissions.length id batch)
  rw [play_all_plain plain] at whole
  simp only [Rota.submit, whole]
  split
  · exact .inr ⟨rfl, rfl⟩
  · rename_i e refused
    exact .inl ⟨e, rfl, rfl⟩

/-- Whatever comes into the queue, the first in line gets a turn for it. -/
theorem bring_vigilant {pool : Pool} (vigilant : Vigilant r)
    (workers : pool.workers = r.engine.pool.workers) (steps : Nat) :
    Vigilant ({ r with engine := { r.engine with pool := pool } }.allow steps).wakeReceiver := by
  have kept := pool_wakeful (e := { r.engine with pool := pool }) vigilant.wakeful rfl rfl
  have wakeful := beside_wakeful kept r.receivers r.gate (r.allowance + steps)
  refine ⟨rouse_wakeful wakeful (by simp), ?_⟩
  have turns := woken_lasting (r.receivers.head?.map Thread.worker).toList vigilant.wakeful.order
  rw [Rota.wakeReceiver, wake_eq]
  refine roused_of vigilant.roused workers rfl (fun t turn => (turns.2 t).mpr (.inl turn))
    (fun _ => .inr fun w first => (turns.2 _).mpr (.inr ?_)) fun _ ended => ended
  simp [first]

theorem submit_vigilant {used : List Uuid} (vigilant : Vigilant r) (id : Uuid) (batch : Batch)
    (sound : Sound used r.engine.pool) (new : id ∉ used) : Vigilant (r.submit id batch).2 := by
  have outcome := submit_submitted batch sound new
  rw [(submit_engine id batch).1] at outcome
  rcases submit_with (r := r) id batch with ⟨e, answer, same⟩ | ⟨answer, same⟩
  · rw [answer] at outcome
    rw [same]
    generalize submitted r.engine.pool id batch = pool at outcome
    refine ⟨pool_wakeful vigilant.wakeful rfl rfl, ?_⟩
    cases outcome with
    | closed | full =>
      exact roused_of vigilant.roused rfl rfl (fun _ turn => turn) .inl fun _ ended => ended
  · rw [answer] at outcome
    rw [same]
    generalize submitted r.engine.pool id batch = pool at outcome
    have workers : pool.workers = r.engine.pool.workers := by
      cases outcome
      rfl
    exact bring_vigilant vigilant workers _

end Calls

section Runs
variable {r q : Rota σ H}

/-- What can be told of a rota's engine before its queue is closed. -/
structure Grounded (ids : List Uuid) (r : Rota σ H) : Prop where
  orderly : Orderly r.engine
  tidy : Tidy r.receivers r.engine.pool
  sound : Sound ids r.engine.pool
  once : RunOnce r.engine.pool
  free : ∀ job ∈ r.engine.pool.queue, errandOf (.job job.id) r.engine.errands = none

theorem turn_vigilant {ids : List Uuid} (grounded : Grounded ids r) (vigilant : Vigilant r)
    (turn : r.turn? = some q) : Vigilant q := by
  unfold Rota.turn? at turn
  split at turn
  · rename_i empty
    split at turn
    · cases turn
    · cases turn
      exact answers_vigilant vigilant
  · rename_i owner rest head
    cases turn
    have order := vigilant.wakeful.order
    refine ⟨errand_turn_wakeful grounded.orderly vigilant.wakeful head, ?_⟩
    by_cases ended : standingOf r.engine owner = some .finished
    · exact finished_roused grounded.once order vigilant.roused head ended
    · exact errand_roused order vigilant.roused head ended
  · rename_i w rest head
    cases turn
    exact worker_turn_vigilant vigilant grounded.tidy grounded.free head

end Runs

section Openings
variable {registry : Registry H} {accessor : Accessor σ H} {workers capacity retained : Nat}
  {gate : Gate} {ids : List Uuid} {r : Rota σ H} {moves : List Move} {e : Engine σ H}

theorem run_orderly
    (run : (opening registry accessor workers capacity retained).run? moves = some e)
    (fresh : (issued (poolActions moves)).Nodup) (stay : ∀ m ∈ moves, ∀ n, m ≠ .giveUp n) :
    Orderly e := by
  induction moves using List.reverseRecOn generalizing e with
  | nil =>
    cases run
    exact ⟨List.nodup_nil, ⟨List.nodup_nil, by simp [opening, Scene.fresh], by simp [opening]⟩,
      by simp [opening]⟩
  | append_singleton rest m ih =>
    obtain ⟨mid, before, move⟩ := run_snoc.mp run
    have orderly := ih before (issued_before fresh) fun m member =>
      stay m (List.mem_append_left _ member)
    have owners := (run_dispatches run fresh).owners
    exact move_orderly (move_moved move) (stay m (by simp)) owners orderly

def openRota (registry : Registry H) (accessor : Accessor σ H) (workers capacity retained : Nat)
    (gate : Gate) : Rota σ H :=
  .start (opening registry accessor workers capacity retained) gate

theorem first_tidy (workers capacity retained : Nat) :
    Tidy [] (Pool.start workers capacity retained) :=
  ⟨rfl, List.nodup_nil, nofun, by simp [Pool.start, List.getElem?_replicate]⟩

theorem running_grounded
    (running : Running (openRota registry accessor workers capacity retained gate) ids r)
    (fresh : ids.Nodup) : Grounded ids r := by
  obtain ⟨⟨turns, patient, run, brings⟩, keeps⟩ := running_leads (first_tidy ..) running
  have run : (openReception registry accessor workers capacity retained).run? turns =
      some r.reception := run
  have moves : (opening registry accessor workers capacity retained).run? (movesOf turns) =
      some r.engine := run_moves run
  have fresh' : (issued (poolActions (movesOf turns))).Nodup := brings ▸ fresh
  have pool : (Pool.start workers capacity retained).run? (poolActions (movesOf turns)) =
      some r.engine.pool := run_pool moves
  have entered := entered_chronicle pool
  have once := entered.symm ▸ fresh'
  have acc := run_accounts pool
  have served := run_dispatches moves fresh'
  refine ⟨run_orderly moves fresh' ?_, keeps (first_tidy ..), ?_, ?_, ?_⟩
  · intro m member n same
    obtain ⟨t, turn, moves⟩ := List.mem_filterMap.mp member
    have patient := patient t turn
    cases t with
    | ask | pass => cases moves
    | move m' =>
      cases moves
      rw [same] at patient
      cases patient
  · refine ⟨⟨_, acc, run_tracks pool fresh', once, fun id member => ?_⟩, run_none_left_early pool,
      fun _ => ?_⟩
    · rwa [entered, brings] at member
    · refine List.length_pos_iff.mp ?_
      rw [(run_dimensions pool).count]
      omega
  · exact fun v w job other first second => one_worker acc once first second
  · intro job queued
    refine errand_of_eq_none_iff.mpr fun present => ?_
    obtain ⟨stage, here⟩ := job_owner_iff.mp present
    obtain ⟨w, other, runs, same, -⟩ := served.serves _ _ here
    refine (queued_undispatched acc once queued).2 ?_
    exact same ▸ List.mem_map_of_mem (running_dispatched acc runs rfl)

theorem open_rota_ready : (openRota registry accessor workers capacity retained gate).ready =
    (List.range (max workers 1)).map .worker := by
  simp [openRota, Rota.start, opening, Pool.start]

theorem open_rota_idle {w : Nat} {phase : Phase}
    (here : (Pool.start workers capacity retained).workers[w]? = some phase) :
    phase = .idle ∧ w < max workers 1 := by
  rw [Pool.start, List.getElem?_replicate] at here
  split at here
  · rename_i known
    exact ⟨(Option.some.inj here).symm, known⟩
  · cases here

theorem open_rota_wakeful :
    Wakeful (openRota registry accessor workers capacity retained gate) := by
  constructor
  case order =>
    rw [open_rota_ready]
    have once : ((List.range (max workers 1)).map Thread.worker).Nodup :=
      List.nodup_range.map fun _ _ => Thread.worker.inj
    have sorted : ((List.range (max workers 1)).map Thread.worker).Pairwise
        fun a b => b.precedes a = false :=
      List.pairwise_map.mpr (List.pairwise_of_forall fun _ _ => rfl)
    exact ⟨once, once.tail, sorted.tail⟩
  case parked =>
    intro owner turn
    rw [open_rota_ready] at turn
    simp at turn
  case placed =>
    intro owner standing stands
    cases stands
  case desks =>
    intro service desk found
    cases found
  case expecting =>
    intro owner expects
    cases expects
  case stalled =>
    intro owner text stalls
    cases stalls

theorem open_rota_roused :
    Roused (openRota registry accessor workers capacity retained gate) := by
  constructor
  case asks =>
    intro w here
    rw [open_rota_ready]
    exact .inr (List.mem_map_of_mem (List.mem_range.mpr (open_rota_idle here).2))
  case first =>
    intro w first
    cases first
  case ends =>
    intro w job result ends
    rcases ends with ends | ends <;> cases (open_rota_idle ends).1
  case collects =>
    intro w job running
    cases (open_rota_idle running).1

theorem running_vigilant
    (running : Running (openRota registry accessor workers capacity retained gate) ids r)
    (fresh : ids.Nodup) : Vigilant r := by
  induction running with
  | start => exact ⟨open_rota_wakeful, open_rota_roused⟩
  | turn running turn ih => exact turn_vigilant (running_grounded running fresh) (ih fresh) turn
  | @submit ids r running id batch ih =>
    obtain ⟨fresh, -, new⟩ := List.nodup_append.mp fresh
    refine submit_vigilant (ih fresh) id batch (running_grounded running fresh).sound fun used => ?_
    exact new id used id List.mem_cons_self rfl
  | dropTicket running id ih => exact drop_ticket_vigilant (ih fresh) id
  | request running n body free ih => exact request_vigilant (ih fresh) n body free
  | call running n service free ih => exact call_vigilant (ih fresh) n service free
  | release running text ih =>
    exact release_vigilant (running_grounded running fresh).orderly.online (ih fresh) text
  | openGate running ih => exact open_gate_vigilant (ih fresh)

end Openings

section Rests
variable {r : Rota σ H} {ids : List Uuid} {owner : Owner} {standing : Standing}

theorem no_turns (rest : r.turn? = none) : r.ready = [] ∧ r.expecting = [] := by
  unfold Rota.turn? at rest
  split at rest
  · rename_i empty
    split at rest
    · rename_i nobody
      exact ⟨empty, nobody⟩
    · cases rest
  · cases rest
  · cases rest

/-- At rest an errand is over or speaks: nobody who waits for a service is left behind, since the
    holder of its desk would have a turn or expect an answer. -/
theorem rest_stands (wakeful : Wakeful r) (rest : r.turn? = none)
    (stands : standingOf r.engine owner = some standing) :
    standing = .finished ∨ ∃ text, standing = .speaking text := by
  obtain ⟨empty, nobody⟩ := no_turns rest
  have silent : ∀ {p service succeeds},
      standingOf r.engine p ≠ some (.lookingUp service succeeds) := by
    intro p service succeeds looks
    have awaited := (wakeful.placed p _ looks).1
    simp [empty, nobody] at awaited
  have placed := wakeful.placed owner standing stands
  cases standing with
  | ready => simp [Placed, empty] at placed
  | waiting service =>
    rcases placed with turn | ⟨desk, found, -⟩
    · simp [empty] at turn
    · rcases (wakeful.desks service desk found).holder with ⟨-, turn⟩ | ⟨succeeds, looks⟩
      · simp [empty] at turn
      · exact absurd looks silent
  | lookingUp service succeeds => exact absurd stands silent
  | speaking text => exact .inr ⟨text, rfl⟩
  | finished => exact .inl rfl

theorem rest_settled (grounded : Grounded ids r) (vigilant : Vigilant r) (rest : r.turn? = none) :
    r.reception.Settled := by
  have tidy := grounded.tidy
  obtain ⟨wakeful, roused⟩ := vigilant
  obtain ⟨empty, -⟩ := no_turns rest
  intro t own
  by_contra possible
  obtain ⟨q, turn⟩ := Option.ne_none_iff_exists'.mp possible
  cases turn_turned turn with
  | ask w idle out =>
    have asks := roused.asks w idle
    rw [empty] at asks
    exact out (asks.resolve_right List.not_mem_nil)
  | pass w others phase here busy head =>
    have lined : w ∈ r.reception.line := by simp [head]
    exact busy (Option.some.inj (here.symm.trans (tidy.idle w lined)))
  | move m e may move =>
    cases move_moved move with
    | begin w job pool taken => exact tidy.untaken w job taken
    | collect w result job pool running ended =>
      obtain ⟨errand, found, report⟩ := Option.bind_eq_some_iff.mp ended
      have turn := roused.collects w job running
        (standing_of_found found (report_finished report))
      simp [empty] at turn
    | other action pool plain acted =>
      have step := act_step acted
      generalize entries _ action = es at step
      cases step with
      | take w job jobs idle queue =>
        have first : r.reception.line.head? = some w := by simpa [mayMove] using may
        have turn := roused.first w first (List.ne_nil_of_mem (queue ▸ List.mem_cons_self))
        simp [empty] at turn
      | record w job result here =>
        have turn := roused.ends w job result (.inl here)
        simp [empty] at turn
      | deliver w job result here =>
        have turn := roused.ends w job result (.inr here)
        simp [empty] at turn
      | leave w idle drained shut =>
        have closed : r.engine.pool.isOpen = false := shut
        simp [isOpen, tidy.accepting] at closed
      | mark w => exact absurd rfl (plain w).1
      | finish w job result => exact absurd rfl ((plain w).2 result)
      | _ => cases own
    | step owner step errand new scene found stepped =>
      have stays := rest_stands wakeful rest (standing_of_found found rfl)
      cases step with
      | advance => simp [(advance_standing stepped).1] at stays
      | lookUp =>
        obtain ⟨service, waits, -⟩ := look_up_standing stepped
        simp [waits] at stays
      | answer | hear => cases own
    | request | call | giveUp => cases own

end Rests

/-- Whenever a rota whose queue is open comes to rest, its reception is one to which turns lead that
    bring the same batches, and nothing in it can go on by itself. -/
theorem rota_rests_settled {registry : Registry H} {accessor : Accessor σ H}
    {workers capacity retained : Nat} {gate : Gate} {ids : List Uuid} {r : Rota σ H}
    (running : Running (openRota registry accessor workers capacity retained gate) ids r)
    (fresh : ids.Nodup) (rest : r.turn? = none) :
    ∃ turns, (openReception registry accessor workers capacity retained).run? turns =
        some r.reception ∧
      issued (poolActions (movesOf turns)) = ids ∧ r.engine.pool.accepting = true ∧
      r.reception.Settled := by
  have grounded := running_grounded running fresh
  obtain ⟨⟨turns, -, run, brings⟩, -⟩ := running_leads (first_tidy ..) running
  exact ⟨turns, run, brings, grounded.tidy.accepting,
    rest_settled grounded (running_vigilant running fresh) rest⟩

/-- One worker and two batches, at a gate that lets no utterance pass. -/
example :
    let first := openRota (.standard "tts") (.online (Robot.recorder none none) (.fresh 0)) 1 2 1
      ⟨false, []⟩
    let one := sayingAll ["one"] (List.cons_ne_nil _ _)
    let two := sayingAll ["two"] (List.cons_ne_nil _ _)
    let brought := ((first.submit (Uuid.ofNat 1) one).2.submit (Uuid.ofNat 2) two).2
    brought.settle.turn?.isNone ∧ brought.settle.reception.isSettled ∧
      brought.settle.engine.pool.queue.map Job.id = [Uuid.ofNat 2] := by
  decide

end CommandGateway.Engine
