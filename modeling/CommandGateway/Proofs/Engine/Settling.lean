import CommandGateway.Proofs.Engine.Agreement
import CommandGateway.Proofs.Engine.Rest
import Mathlib.Logic.Hydra

/- A rota comes to rest by its own turns, whatever work there is. Each turn takes a job from the
   queue, or brings an errand on, or leaves fewer turns to come; and an errand comes to its end. So
   the settled states, in which the pool has as many jobs running as it can, are always reached. -/
namespace CommandGateway.Engine

open Pool Relation

variable {σ H : Type}

section Turns
variable {t : Thread} {l : List Thread}

/-- An errand at its end may give a turn to a worker. -/
def weight : Thread → Nat
  | .worker _ => 1
  | .errand _ => 2

def burden (threads : List Thread) : Nat := (threads.map weight).sum

theorem burden_cons : burden (t :: l) = weight t + burden l := by simp [burden]

theorem enqueue_burden : burden (enqueue t l) ≤ weight t + burden l := by
  induction l with
  | nil => simp [enqueue, burden]
  | cons u rest ih =>
    rw [enqueue]
    split
    · exact Nat.le_add_left _ _
    · split
      · simp [burden]
      · rw [burden_cons, burden_cons]
        omega

theorem enqueue_all_burden (threads l : List Thread) :
    burden (threads.foldl (fun ready t => enqueue t ready) l) ≤ burden threads + burden l := by
  induction threads generalizing l with
  | nil => simp [burden]
  | cons t rest ih =>
    have first : burden (enqueue t l) ≤ weight t + burden l := enqueue_burden
    have others := ih (enqueue t l)
    rw [List.foldl_cons, burden_cons]
    omega

theorem filter_burden (threads : List Thread) (keep : Thread → Bool) :
    burden (threads.filter keep) ≤ burden threads := by
  apply List.Sublist.sum_le_sum
  · exact List.filter_sublist.map weight
  · intro n _
    exact Nat.zero_le n

theorem woken_burden (threads l : List Thread) :
    burden (woken threads l) ≤ burden threads + burden l := by
  cases l with
  | nil => exact enqueue_all_burden threads []
  | cons t rest =>
    have others := enqueue_all_burden (threads.filter (· ≠ t)) rest
    have fewer := filter_burden threads (· ≠ t)
    rw [woken, burden_cons, burden_cons]
    omega

end Turns

section Errands
variable {errands : List (Errand H)} {owner : Owner} {old new : Errand H}

theorem errand_placed (owners : (errands.map Errand.owner).Nodup)
    (found : errandOf owner errands = some old) :
    ∃ before after, errands = before ++ old :: after ∧
      removeErrand owner errands = before ++ after ∧
      ∀ new : Errand H, new.owner = owner →
        replaceErrand new errands = before ++ new :: after := by
  obtain ⟨here, owns⟩ := errand_of_some found
  obtain ⟨before, after, rfl⟩ := List.append_of_mem here
  rw [List.map_append, List.map_cons, List.nodup_middle, List.nodup_cons, owns] at owners
  have apart : ∀ errand, errand ∈ before ∨ errand ∈ after → errand.owner ≠ owner := by
    intro errand member same
    apply owners.1
    rw [← same, ← List.map_append]
    exact List.mem_map_of_mem (List.mem_append.mpr member)
  refine ⟨before, after, rfl, ?_, ?_⟩
  · have first : before.filter (·.owner ≠ owner) = before :=
      List.filter_eq_self.mpr fun errand member => by simpa using apart errand (.inl member)
    have last : after.filter (·.owner ≠ owner) = after :=
      List.filter_eq_self.mpr fun errand member => by simpa using apart errand (.inr member)
    simp only [removeErrand, List.filter_append, List.filter_cons, first, last]
    simp [owns]
  · rintro new rfl
    have kept : ∀ errand, errand ∈ before ∨ errand ∈ after →
        (if errand.owner = new.owner then new else errand) = id errand := by
      intro errand member
      simp [apart errand member]
    have first := (List.map_congr_left fun errand member => kept errand (.inl member)).trans
      (List.map_id before)
    have last := (List.map_congr_left fun errand member => kept errand (.inr member)).trans
      (List.map_id after)
    simp only [replaceErrand, List.map_append, List.map_cons, first, last]
    simp [owns]

theorem placed_eq (before after : List (Errand H)) (errand : Errand H) :
    ((before ++ errand :: after : List (Errand H)) : Multiset (Errand H)) =
      ((before ++ after : List (Errand H)) : Multiset (Errand H)) + {errand} := by
  apply Multiset.coe_eq_coe.mpr
  exact List.perm_middle.trans (List.perm_append_singleton errand _).symm

theorem replaced_expand {s s' : Scene σ H} {step : Step}
    (owners : (errands.map Errand.owner).Nodup) (found : errandOf owner errands = some old)
    (stepped : old.step? s step = some (new, s')) :
    CutExpand (Errand.Next σ) (replaceErrand new errands : Multiset (Errand H)) errands := by
  have owns := (errand_step_owner stepped).trans (errand_of_some found).2
  obtain ⟨before, after, same, -, replaced⟩ := errand_placed owners found
  rw [replaced new owns, same, placed_eq, placed_eq]
  exact cutExpand_add_single _ ⟨s, s', step, stepped⟩

theorem removed_expand (owners : (errands.map Errand.owner).Nodup)
    (found : errandOf owner errands = some old) :
    CutExpand (Errand.Next σ) (removeErrand owner errands : Multiset (Errand H)) errands := by
  obtain ⟨before, after, same, removed, -⟩ := errand_placed owners found
  rw [removed, same, placed_eq]
  exact ⟨0, old, by simp, by simp⟩

end Errands

/-- What the threads have to do apart from the errands: the turns to come, the answers to come, and
    the turns of the workers until all stand in line. -/
def Rota.chores (r : Rota σ H) : Nat :=
  burden r.ready + 3 * r.expecting.length + (r.engine.pool.workers.map leftToDo).sum +
    (r.engine.pool.workers.length - r.receivers.length)

def Rota.ahead (r : Rota σ H) : Nat × Multiset (Errand H) × Nat :=
  (r.engine.pool.queue.length, r.engine.errands, r.chores)

def Nearer (q r : Rota σ H) : Prop :=
  Prod.Lex (· < ·) (Prod.Lex (CutExpand (Errand.Next σ)) (· < ·)) q.ahead r.ahead

theorem nearer_wf : WellFounded (Nearer (σ := σ) (H := H)) := by
  have numbers : WellFounded fun m n : Nat => m < n := Nat.lt_wfRel.wf
  have errands : WellFounded (Errand.Next (H := H) σ) := ⟨errand_acc⟩
  exact InvImage.wf Rota.ahead (numbers.prod_lex (errands.cutExpand.prod_lex numbers))

section Nearer
variable {r q : Rota σ H} {e : Engine σ H} {owner : Owner} {standing : Standing} {step : Step}
  {t : Thread} {rest : List Thread} {w : Nat}

theorem nearer_of_queue (queue : q.engine.pool.queue.length < r.engine.pool.queue.length) :
    Nearer q r := Prod.Lex.left _ _ queue

theorem nearer_of_errands (queue : q.engine.pool.queue = r.engine.pool.queue)
    (errands : CutExpand (Errand.Next σ) (q.engine.errands : Multiset (Errand H))
      r.engine.errands) : Nearer q r := by
  apply Prod.lex_def.mpr
  right
  exact ⟨congrArg List.length queue, Prod.Lex.left _ _ errands⟩

theorem nearer_of_chores (queue : q.engine.pool.queue = r.engine.pool.queue)
    (errands : q.engine.errands = r.engine.errands) (chores : q.chores < r.chores) :
    Nearer q r := by
  apply Prod.lex_def.mpr
  right
  constructor
  · exact congrArg List.length queue
  · apply Prod.lex_def.mpr
    right
    exact ⟨congrArg (fun all : List (Errand H) => (all : Multiset (Errand H))) errands, chores⟩

theorem yield_chores (head : r.ready = t :: rest) : r.yield.chores + weight t = r.chores := by
  simp only [Rota.chores, Rota.yield, head, List.tail_cons, burden_cons]
  omega

theorem yield_nearer (head : r.ready = t :: rest) : Nearer r.yield r := by
  refine nearer_of_chores rfl rfl ?_
  have fewer := yield_chores head
  have counts : 0 < weight t := by cases t <;> simp [weight]
  omega

theorem wake_chores (threads : List Thread) :
    (r.wake threads).chores ≤ r.chores + burden threads := by
  have woken := woken_burden threads r.ready
  rw [wake_eq]
  simp only [Rota.chores]
  omega

theorem step_nearer (orderly : Orderly r.engine)
    (stands : standingOf r.engine owner = some standing) (due : standing.step? = some step)
    (free : ∀ service, standing = .waiting service → service ∉ r.engine.scene.inFlight)
    (same : q.reception = (r.play (.step owner step)).reception) : Nearer q r := by
  obtain ⟨old, found, rfl⟩ := standing_of_some stands
  obtain ⟨e, move⟩ := errand_can_step orderly.online found due free
  obtain ⟨same', new, scene, found', stepped, owns, rfl⟩ := step_errand move
  obtain rfl : old = same' := Option.some.inj (found.symm.trans found')
  have engine : q.engine = { r.engine with
      scene := scene, errands := replaceErrand new r.engine.errands } := by
    rw [play_with (m := .step owner step) move] at same
    exact congrArg Reception.engine same
  apply nearer_of_errands
  · rw [engine]
  · rw [engine]
    exact replaced_expand orderly.owners found stepped

theorem look_up_nearer {service : String} (orderly : Orderly r.engine) (wakeful : Wakeful r)
    (stands : standingOf r.engine owner = some (.waiting service))
    (own : handleFor service r.engine.scene.accessor.handles = none →
      ∃ desk, deskOf service r.desks = some desk ∧ desk.holder = owner) :
    Nearer (r.lookUp owner) r := by
  have free := free_at_desk orderly wakeful stands own
  refine step_nearer orderly stands rfl ?_ (look_up_reception owner)
  rintro name ⟨⟩
  exact free

theorem queue_up_nearer {service : String} (orderly : Orderly r.engine) (wakeful : Wakeful r)
    (head : r.ready = .errand owner :: rest)
    (stands : standingOf r.engine owner = some (.waiting service)) :
    Nearer (r.queueUp owner service) r := by
  have turn : .errand owner ∈ r.ready := by simp [head]
  unfold Rota.queueUp
  split
  · rename_i handle known
    exact look_up_nearer orderly wakeful stands fun unknown => by simp [known] at unknown
  · rename_i unknown
    split
    · rename_i empty
      have desk : deskOf service (r.setDesk service (some ⟨service, owner, []⟩)).desks = some _ :=
        (desk_of_set r service _ (by rintro d ⟨⟩; rfl) service).trans (if_pos rfl)
      have takes := take_desk_wakeful wakeful empty unknown stands turn
      exact look_up_nearer (r := r.setDesk service _) orderly takes stands fun _ => ⟨_, desk, rfl⟩
    · rename_i desk found
      split
      · rename_i holder
        exact look_up_nearer orderly wakeful stands fun _ => ⟨desk, found, holder⟩
      · exact yield_nearer (r := r.setDesk service _) head

theorem speak_nearer {text : String} (orderly : Orderly r.engine)
    (head : r.ready = .errand owner :: rest)
    (stands : standingOf r.engine owner = some (.speaking text)) :
    Nearer (r.speak owner text) r := by
  unfold Rota.speak
  split
  · exact step_nearer orderly stands rfl nofun rfl
  · split
    · exact step_nearer orderly stands rfl nofun rfl
    · exact yield_nearer (r := { r with stalled := _ }) head

theorem leave_errand_nearer (head : r.ready = .errand owner :: rest) :
    Nearer (r.leaveErrand owner) r := by
  have yields := yield_chores head
  unfold Rota.leaveErrand
  split
  · split
    · rename_i w found
      have wakes := wake_chores (r := r.yield) [.worker w]
      apply nearer_of_chores
      · rw [wake_engine]
        rfl
      · rw [wake_engine]
        rfl
      · simp only [burden, weight, List.map_cons, List.map_nil, List.sum_cons, List.sum_nil] at *
        omega
    · exact yield_nearer head
  · exact yield_nearer head

theorem errand_turn_nearer (orderly : Orderly r.engine) (wakeful : Wakeful r)
    (head : r.ready = .errand owner :: rest) : Nearer (r.errandTurn owner) r := by
  unfold Rota.errandTurn
  split
  · exact yield_nearer head
  · rename_i stands
    exact step_nearer orderly stands rfl nofun rfl
  · rename_i service stands
    exact queue_up_nearer orderly wakeful head stands
  · rename_i service succeeds stands
    exact step_nearer orderly stands rfl nofun (leave_desk_reception service succeeds)
  · rename_i text stands
    exact speak_nearer orderly head stands
  · exact leave_errand_nearer head

theorem set_left {workers : List Phase} {phase next : Phase} (here : workers[w]? = some phase)
    (less : leftToDo next < leftToDo phase) :
    ((workers.set w next).map leftToDo).sum < (workers.map leftToDo).sum := by
  induction workers generalizing w with
  | nil => simp at here
  | cons first others ih =>
    cases w with
    | zero =>
      obtain rfl : first = phase := by simpa using here
      simpa using less
    | succ w =>
      have later := ih (w := w) (by simpa using here)
      simpa using later

theorem phase_nearer {phase next : Phase} (here : r.engine.pool.workers[w]? = some phase)
    (less : leftToDo next < leftToDo phase) (queue : e.pool.queue = r.engine.pool.queue)
    (errands : e.errands = r.engine.errands)
    (workers : e.pool.workers = r.engine.pool.workers.set w next) :
    Nearer { r with engine := e } r := by
  have fewer := set_left here less
  refine nearer_of_chores queue errands ?_
  simp only [Rota.chores, workers, List.length_set]
  omega

theorem record_nearer {job : Job} {result : Ended Report}
    (here : r.engine.pool.workers[w]? = some (.ended job result)) :
    Nearer (r.play (.pool (.record w))) r := by
  have move : ∃ e, r.engine.move? (.pool (.record w)) = some e ∧ e.errands = r.engine.errands ∧
      e.pool.queue = r.engine.pool.queue ∧
      e.pool.workers = r.engine.pool.workers.set w (.recorded job result) := by
    simp [move?, act?, Pool.act?, record?, here, setWorker]
  obtain ⟨e, move, errands, queue, workers⟩ := move
  rw [play_with move]
  exact phase_nearer here (by simp [leftToDo]) queue errands workers

theorem deliver_nearer {job : Job} {result : Ended Report}
    (here : r.engine.pool.workers[w]? = some (.recorded job result)) :
    Nearer (r.play (.pool (.deliver w))) r := by
  have move : ∃ e, r.engine.move? (.pool (.deliver w)) = some e ∧ e.errands = r.engine.errands ∧
      e.pool.queue = r.engine.pool.queue ∧
      e.pool.workers = r.engine.pool.workers.set w .idle := by
    simp [move?, act?, Pool.act?, deliver?, here, setWorker]
  obtain ⟨e, move, errands, queue, workers⟩ := move
  rw [play_with move]
  exact phase_nearer here (by simp [leftToDo]) queue errands workers

theorem finish_nearer {job : Job} {result : Ended Report} (orderly : Orderly r.engine)
    (running : r.engine.pool.workers[w]? = some (.running job))
    (ended : (errandOf (.job job.id) r.engine.errands).bind Errand.report? = some result) :
    Nearer (r.play (.pool (.finish w result))) r := by
  have move : ∃ e, r.engine.move? (.pool (.finish w result)) = some e ∧
      e.errands = removeErrand (.job job.id) r.engine.errands ∧
      e.pool.queue = r.engine.pool.queue := by
    simp [move?, act?, Pool.act?, finish?, running, ended, setWorker]
  obtain ⟨e, move, errands, queue⟩ := move
  obtain ⟨errand, found, -⟩ := Option.bind_eq_some_iff.mp ended
  rw [play_with move]
  apply nearer_of_errands queue
  rw [errands]
  exact removed_expand orderly.owners found

theorem ask_nearer (tidy : Tidy r.receivers r.engine.pool)
    (idle : r.engine.pool.workers[w]? = some .idle) (out : w ∉ r.receivers) :
    Nearer { r with receivers := r.receivers ++ [w] } r := by
  have once : (w :: r.receivers).Nodup := List.nodup_cons.mpr ⟨out, tidy.once⟩
  have known : (w :: r.receivers) ⊆ List.range r.engine.pool.workers.length := by
    intro v member
    apply List.mem_range.mpr
    rcases List.mem_cons.mp member with rfl | lined
    · exact (List.getElem?_eq_some_iff.mp idle).1
    · exact (List.getElem?_eq_some_iff.mp (tidy.idle v lined)).1
  have room := (List.subperm_of_subset once known).length_le
  refine nearer_of_chores rfl rfl ?_
  simp only [List.length_cons, List.length_range] at room
  simp only [Rota.chores, List.length_append, List.length_cons, List.length_nil]
  omega

theorem receive_nearer (tidy : Tidy r.receivers r.engine.pool)
    (head : r.ready = .worker w :: rest) (idle : r.engine.pool.workers[w]? = some .idle) :
    Nearer (r.receive w) r := by
  cases queue : r.engine.pool.queue with
  | nil =>
    rw [receive_waits tidy.accepting queue]
    exact yield_nearer head
  | cons job jobs =>
    apply nearer_of_queue
    rw [receive_begun idle queue, queue]
    simp [begun]

theorem worker_turn_nearer (orderly : Orderly r.engine) (tidy : Tidy r.receivers r.engine.pool)
    (head : r.ready = .worker w :: rest) : Nearer (r.workerTurn w) r := by
  unfold Rota.workerTurn
  split
  · rename_i idle
    split
    · split
      · exact receive_nearer tidy head idle
      · exact yield_nearer head
    · rename_i out
      exact ask_nearer tidy idle out
  · rename_i job taken
    exact absurd taken (tidy.untaken w job)
  · rename_i job running
    split
    · rename_i result ended
      exact finish_nearer orderly running ended
    · exact yield_nearer head
  · rename_i job result here
    exact record_nearer here
  · rename_i job result here
    exact deliver_nearer here
  · exact yield_nearer head
  · exact yield_nearer head

theorem burden_errands (owners : List Owner) :
    burden (owners.map Thread.errand) = 2 * owners.length := by
  induction owners with
  | nil => rfl
  | cons owner others ih =>
    rw [List.map_cons, burden_cons, ih, List.length_cons, weight]
    omega

theorem answers_nearer (expects : r.expecting ≠ []) :
    Nearer ({ r with expecting := [] }.wake (r.expecting.map .errand)) r := by
  have some : 0 < r.expecting.length := List.length_pos_of_ne_nil expects
  have wakes := wake_chores (r := { r with expecting := [] }) (r.expecting.map .errand)
  rw [burden_errands] at wakes
  apply nearer_of_chores
  · rw [wake_engine]
  · rw [wake_engine]
  · simp only [Rota.chores, List.length_nil] at wakes ⊢
    omega

theorem turn_nearer (orderly : Orderly r.engine) (tidy : Tidy r.receivers r.engine.pool)
    (wakeful : Wakeful r) (turn : r.turn? = some q) : Nearer q r := by
  unfold Rota.turn? at turn
  split at turn
  · split at turn
    · cases turn
    · rename_i owners expects
      cases turn
      exact answers_nearer expects
  · rename_i owner rest head
    cases turn
    exact errand_turn_nearer orderly wakeful head
  · rename_i w rest head
    cases turn
    exact worker_turn_nearer orderly tidy head

end Nearer

section Openings
variable {registry : Registry H} {accessor : Accessor σ H} {workers capacity retained : Nat}
  {gate : Gate} {ids : List Uuid} {r : Rota σ H}

theorem comes_to_rest
    (running : Running (openRota registry accessor workers capacity retained gate) ids r)
    (fresh : ids.Nodup) : ∃ n, (r.turns n).turn? = none ∧
      Running (openRota registry accessor workers capacity retained gate) ids (r.turns n) := by
  -- on what is ahead of the rota, of which every turn takes something away
  induction r using nearer_wf.induction with
  | _ r ih =>
    cases turn : r.turn? with
    | none => exact ⟨0, turn, running⟩
    | some q =>
      have grounded := running_grounded running fresh
      have wakeful := (running_vigilant running fresh).wakeful
      have nearer := turn_nearer grounded.orderly grounded.tidy wakeful turn
      obtain ⟨n, rest, keeps⟩ := ih q nearer (running.turn turn)
      have later : r.turns (n + 1) = q.turns n := by simp only [Rota.turns, turn]
      exact ⟨n + 1, later ▸ rest, later ▸ keeps⟩

/-- Left to itself, a rota whose queue is open comes to rest after some turns. Its reception is then
    one to which turns lead that bring the same batches, nothing in it can go on by itself, and as
    many jobs run as there are workers for. -/
theorem rota_settles
    (running : Running (openRota registry accessor workers capacity retained gate) ids r)
    (fresh : ids.Nodup) : ∃ n, (r.turns n).turn? = none ∧
      ∃ turns, (openReception registry accessor workers capacity retained).run? turns =
          some (r.turns n).reception ∧
        issued (poolActions (movesOf turns)) = ids ∧
        (r.turns n).engine.pool.accepting = true ∧ (r.turns n).reception.Settled ∧
        Conserving workers (r.turns n).reception
          (chronicle (Pool.start workers capacity retained) (poolActions (movesOf turns))) := by
  obtain ⟨n, rest, keeps⟩ := comes_to_rest running fresh
  obtain ⟨turns, run, brings, accepting, settled⟩ := rota_rests_settled keeps fresh rest
  have kept := run_well run (brings.symm ▸ fresh)
  have conserving := settled_conserving kept accepting settled
  exact ⟨n, rest, turns, run, brings, accepting, settled, conserving⟩

end Openings
end CommandGateway.Engine
