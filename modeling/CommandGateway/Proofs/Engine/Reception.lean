import CommandGateway.Engine.Reception
import CommandGateway.Proofs.Engine.Fairness

/- Who stands in line for the queue. Every turn is a move of the engine or none at all, so a run of
   the reception is a run of its engine; and whoever stands in line behind another is idle. -/
namespace CommandGateway.Engine

open Pool

variable {σ H : Type}

inductive Turned (r : Reception σ H) : Reception.Turn → Reception σ H → Prop where
  | ask (w : Nat) (idle : r.engine.pool.workers[w]? = some .idle) (out : w ∉ r.line) :
      Turned r (.ask w) { r with line := r.line ++ [w] }
  | pass (w : Nat) (rest : List Nat) (phase : Phase)
      (here : r.engine.pool.workers[w]? = some phase) (busy : phase ≠ .idle)
      (head : r.line = w :: rest) : Turned r (.pass w) { r with line := rest }
  | move (m : Move) (e : Engine σ H) (may : mayMove r.line m) (move : r.engine.move? m = some e) :
      Turned r (.move m) { r with engine := e }

section Turns
variable {r q : Reception σ H} {t : Reception.Turn} {turns : List Reception.Turn}

theorem is_idle_iff {phase : Phase} : isIdle phase = true ↔ phase = .idle := by
  cases phase <;> simp [isIdle]

theorem head_of_line {line : List Nat} {w : Nat} (head : line.head? = some w) :
    ∃ rest, line = w :: rest := by
  cases line with
  | nil => cases head
  | cons first rest =>
    cases head
    exact ⟨rest, rfl⟩

theorem turn_turned (h : r.turn? t = some q) : Turned r t q := by
  cases t with
  | ask w =>
    simp only [Reception.turn?] at h
    split at h
    · rename_i phase here
      split at h
      · rename_i asks
        cases h
        obtain rfl := is_idle_iff.mp asks.1
        exact Turned.ask w here asks.2
      · cases h
    · cases h
  | pass w =>
    simp only [Reception.turn?] at h
    split at h
    · rename_i phase here
      split at h
      · rename_i passes
        cases h
        obtain ⟨rest, head⟩ := head_of_line passes.1
        have busy : phase ≠ .idle := fun idle => by simp [idle, isIdle] at passes
        simpa [head] using Turned.pass w rest phase here busy head
      · cases h
    · cases h
  | move m =>
    simp only [Reception.turn?] at h
    split at h
    · rename_i may
      obtain ⟨e, move, rfl⟩ := Option.map_eq_some_iff.mp h
      exact Turned.move m e may move
    · cases h

theorem worker_turn_mem {w : Nat} {phase : Phase} (here : r.engine.pool.workers[w]? = some phase)
    (own : t ∈ workerTurns r.engine w) :
    t ∈ (List.range r.engine.pool.workers.length).flatMap (workerTurns r.engine) :=
  List.mem_flatMap.mpr ⟨w, List.mem_range.mpr (List.getElem?_eq_some_iff.mp here).1, own⟩

theorem own_turn_mem (turned : Turned r t q) (own : t.isOwn) :
    t ∈ (List.range r.engine.pool.workers.length).flatMap (workerTurns r.engine) ++
      r.engine.errands.flatMap errandTurns := by
  cases turned with
  | ask w idle | pass w rest phase idle =>
    exact List.mem_append_left _ (worker_turn_mem idle (by simp [workerTurns]))
  | move m e may move =>
    cases move_moved move with
    | begin w job pool taken acted =>
      exact List.mem_append_left _ (worker_turn_mem taken (by simp [workerTurns]))
    | collect w result job pool running ended acted =>
      refine List.mem_append_left _ (worker_turn_mem running ?_)
      simp [workerTurns, running, ended]
    | other action pool plain acted =>
      have step := act_step acted
      generalize entries r.engine.pool action = es at step
      cases step with
      | take w job rest here | record w job result here | deliver w job result here
      | leave w here =>
        exact List.mem_append_left _ (worker_turn_mem here (by simp [workerTurns]))
      | mark w => exact absurd rfl (plain w).1
      | finish w job result => exact absurd rfl ((plain w).2 result)
      | _ => cases own
    | step owner step errand new scene found stepped =>
      obtain ⟨here, rfl⟩ := errand_of_some found
      refine List.mem_append_right _ (List.mem_flatMap.mpr ⟨errand, here, ?_⟩)
      cases step with
      | advance | lookUp => simp [errandTurns]
      | answer | hear => cases own
    | request | call | giveUp => cases own

theorem worker_turn_own {e : Engine σ H} {w : Nat} (member : t ∈ workerTurns e w) : t.isOwn := by
  simp only [workerTurns, List.mem_append, List.mem_map, List.mem_cons, List.not_mem_nil,
    or_false] at member
  rcases member with (rfl | rfl) |
    ⟨a, (rfl | rfl | rfl | rfl | rfl) | ⟨result, -, rfl⟩, rfl⟩ <;> rfl

theorem errand_turn_own {errand : Errand H} (member : t ∈ errandTurns errand) : t.isOwn := by
  simp only [errandTurns, List.mem_cons, List.not_mem_nil, or_false] at member
  rcases member with rfl | rfl <;> rfl

theorem is_settled_iff : r.isSettled = true ↔ r.Settled := by
  rw [Reception.isSettled, List.all_eq_true]
  constructor
  · intro all t own
    cases turn : r.turn? t with
    | none => rfl
    | some q => simpa [turn] using all t (own_turn_mem (turn_turned turn) own)
  · intro settled t member
    rw [settled t ?_, Option.isNone_none]
    rcases List.mem_append.mp member with ofWorker | ofErrand
    · obtain ⟨w, -, member⟩ := List.mem_flatMap.mp ofWorker
      exact worker_turn_own member
    · obtain ⟨errand, -, member⟩ := List.mem_flatMap.mp ofErrand
      exact errand_turn_own member

def movesOf (turns : List Reception.Turn) : List Move :=
  turns.filterMap fun | .move m => some m | _ => none

theorem run_moves (run : r.run? turns = some q) :
    r.engine.run? (movesOf turns) = some q.engine := by
  induction turns generalizing r with
  | nil =>
    cases run
    rfl
  | cons t rest ih =>
    simp only [Reception.run?] at run
    split at run
    · rename_i next possible
      have later := ih run
      cases turn_turned possible with
      | ask | pass => exact later
      | move m e may move => simpa [movesOf, Engine.run?, move] using later
    · cases run

theorem run_turns_keep {Inv : Reception σ H → Prop}
    (keeps : ∀ {r t q}, Turned r t q → Inv r → Inv q) (run : r.run? turns = some q)
    (initial : Inv r) : Inv q := by
  induction turns generalizing r with
  | nil =>
    cases run
    exact initial
  | cons t rest ih =>
    simp only [Reception.run?] at run
    split at run
    · rename_i next possible
      exact ih run (keeps (turn_turned possible) initial)
    · cases run

end Turns

/-- Nobody stands in line twice, and only the first can be anything but idle. -/
structure InLine (line : List Nat) (workers : List Phase) : Prop where
  once : line.Nodup
  known : ∀ w ∈ line, w < workers.length
  idle : ∀ w ∈ line.tail, workers[w]? = some .idle

section Lines
variable {line : List Nat} {workers : List Phase} {w : Nat}

theorem ask_in_line (inv : InLine line workers) (idle : workers[w]? = some .idle)
    (out : w ∉ line) : InLine (line ++ [w]) workers := by
  obtain ⟨once, known, rest⟩ := inv
  refine ⟨?_, ?_, ?_⟩
  · exact (List.perm_append_singleton w line).nodup_iff.mpr (List.nodup_cons.mpr ⟨out, once⟩)
  · intro v member
    rcases List.mem_append.mp member with here | new
    · exact known v here
    · obtain rfl := List.mem_singleton.mp new
      exact (List.getElem?_eq_some_iff.mp idle).1
  · intro v member
    cases line with
    | nil => cases member
    | cons first others =>
      rw [List.cons_append, List.tail_cons] at member
      rcases List.mem_append.mp member with here | new
      · exact rest v here
      · obtain rfl := List.mem_singleton.mp new
        exact idle

theorem pass_in_line {rest : List Nat} (inv : InLine (w :: rest) workers) :
    InLine rest workers := by
  obtain ⟨once, known, idle⟩ := inv
  refine ⟨once.of_cons, fun v here => known v (List.mem_cons_of_mem _ here), ?_⟩
  exact fun v here => idle v (List.mem_of_mem_tail here)

theorem set_in_line {phase : Phase} (inv : InLine line workers) (apart : w ∉ line.tail) :
    InLine line (workers.set w phase) := by
  obtain ⟨once, known, idle⟩ := inv
  refine ⟨once, by simpa using known, fun v here => ?_⟩
  have other : w ≠ v := by
    rintro rfl
    exact apart here
  rw [List.getElem?_set_ne other, idle v here]

theorem head_apart (once : line.Nodup) (head : line.head? = some w) : w ∉ line.tail := by
  obtain ⟨rest, rfl⟩ := head_of_line head
  exact (List.nodup_cons.mp once).1

/-- Of the workers in line only the first one moves. -/
theorem act_in_line {p q : Pool} {a : Action} (acted : p.act? a = some q)
    (may : mayMove line (.pool a)) (inv : InLine line p.workers) : InLine line q.workers := by
  have apart : ∀ {v : Nat} {phase : Phase}, p.workers[v]? = some phase → phase ≠ .idle →
      v ∉ line.tail := by
    intro v phase here busy behind
    exact busy (Option.some.inj (here.symm.trans (inv.idle v behind)))
  have step := act_step acted
  generalize entries p a = es at step
  cases step with
  | take w | leave w =>
    exact set_in_line inv (head_apart inv.once (by simpa [mayMove] using may))
  | mark w job found | finish w job result found | record w job result found
  | deliver w job result found => exact set_in_line inv (apart found nofun)
  | _ => exact inv

theorem turned_in_line {r q : Reception σ H} {t : Reception.Turn} (turned : Turned r t q)
    (inv : InLine r.line r.engine.pool.workers) : InLine q.line q.engine.pool.workers := by
  cases turned with
  | ask w idle out => exact ask_in_line inv idle out
  | pass w rest phase here busy head => exact pass_in_line (head ▸ inv)
  | move m e may move =>
    have acted := moved_pool (move_moved move)
    cases m with
    | pool a => exact act_in_line acted may inv
    | request | call | giveUp | step =>
      simp only at acted
      rwa [← acted] at inv

end Lines

section Openings
variable {registry : Registry H} {accessor : Accessor σ H} {workers capacity retained : Nat}
  {moves : List Move} {turns : List Reception.Turn} {e : Engine σ H} {r : Reception σ H}

theorem run_online
    (run : (opening registry accessor workers capacity retained).run? moves = some e)
    (fresh : (issued (poolActions moves)).Nodup) : Online e := by
  refine fresh_moves_keep (fun _ e => Online e) ?_ run fresh (by simp [Online, opening])
  rintro moves mid m e before move - ids online
  have owners := (run_dispatches before (entered_chronicle (run_pool before) ▸ ids)).owners
  exact move_online (move_moved move) owners online

def openReception (registry : Registry H) (accessor : Accessor σ H)
    (workers capacity retained : Nat) : Reception σ H :=
  ⟨opening registry accessor workers capacity retained, []⟩

theorem run_in_line
    (run : (openReception registry accessor workers capacity retained).run? turns = some r) :
    InLine r.line r.engine.pool.workers :=
  run_turns_keep turned_in_line run
    ⟨List.nodup_nil, by simp [openReception], by simp [openReception]⟩

end Openings
end CommandGateway.Engine
