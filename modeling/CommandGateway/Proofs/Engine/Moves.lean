import CommandGateway.Engine.Basic
import CommandGateway.Proofs.Pool.Accounts
import Mathlib.Data.List.Induction

/- Everything that one move can do to an engine, said once. A run of an engine is a run of its pool
   with other moves in between, and no two of its errands have the same owner. -/
namespace CommandGateway.Engine

open Pool

variable {σ H : Type}

/-- Actions that neither start a dispatch nor collect its result. -/
def Plain (action : Action) : Prop := ∀ w, action ≠ .mark w ∧ ∀ result, action ≠ .finish w result

inductive Moved (e : Engine σ H) : Move → Engine σ H → Prop where
  | begin (w : Nat) (job : Job) (pool : Pool) (taken : e.pool.workers[w]? = some (.taken job))
      (acted : e.pool.act? (.mark w) = some pool) :
      Moved e (.pool (.mark w))
        { e with
          pool := pool
          errands := e.errands ++ [.batch job.id (.ready (dispatch e.registry job.batch))] }
  | collect (w : Nat) (result : Ended Report) (job : Job) (pool : Pool)
      (running : e.pool.workers[w]? = some (.running job))
      (ended : (errandOf (.job job.id) e.errands).bind Errand.report? = some result)
      (acted : e.pool.act? (.finish w result) = some pool) :
      Moved e (.pool (.finish w result))
        { e with pool := pool, errands := removeErrand (.job job.id) e.errands }
  | other (action : Action) (pool : Pool) (plain : Plain action)
      (acted : e.pool.act? action = some pool) : Moved e (.pool action) { e with pool := pool }
  | request (n : Nat) (body : Bytes) (free : errandOf (.request n) e.errands = none) :
      Moved e (.request n body)
        { e with errands := e.errands ++ [.payload n (.ready (dispatchPayload e.registry body))] }
  | call (n : Nat) (service : String) (free : errandOf (.caller n) e.errands = none) :
      Moved e (.call n service)
        { e with errands := e.errands ++ [.handle n (.ready (.acquire service .done))] }
  | giveUp (n : Nat) (errand : Errand H) (found : errandOf (.caller n) e.errands = some errand) :
      Moved e (.giveUp n)
        { e with
          scene := e.scene.release errand.standing
          errands := removeErrand (.caller n) e.errands }
  | step (owner : Owner) (step : Step) (errand errand' : Errand H) (scene : Scene σ H)
      (found : errandOf owner e.errands = some errand)
      (stepped : errand.step? e.scene step = some (errand', scene)) :
      Moved e (.step owner step)
        { e with scene := scene, errands := replaceErrand errand' e.errands }

theorem act_moved {e e' : Engine σ H} {action : Action} (h : e.act? action = some e') :
    Moved e (.pool action) e' := by
  unfold act? at h
  split at h
  · cases h
  · rename_i pool acted
    split at h
    · split at h
      · rename_i taken
        cases h
        exact Moved.begin _ _ pool taken acted
      · cases h
    · split at h
      · rename_i job running
        split at h
        · rename_i ended
          cases h
          exact Moved.collect _ _ job pool running ended acted
        · cases h
      · cases h
    · rename_i notMark notFinish
      cases h
      exact Moved.other _ pool
        (fun w => ⟨fun same => notMark w same, fun r same => notFinish w r same⟩) acted

theorem move_moved {e e' : Engine σ H} {m : Move} (h : e.move? m = some e') : Moved e m e' := by
  cases m with
  | pool action => exact act_moved h
  | request n body =>
    simp only [move?] at h
    split at h
    · cases h
    · rename_i free
      cases h
      exact Moved.request n body free
  | call n service =>
    simp only [move?] at h
    split at h
    · cases h
    · rename_i free
      cases h
      exact Moved.call n service free
  | giveUp n =>
    simp only [move?] at h
    split at h
    · cases h
    · rename_i errand found
      cases h
      exact Moved.giveUp n errand found
  | step owner step =>
    simp only [move?, step?] at h
    split at h
    · cases h
    · rename_i errand found
      split at h
      · cases h
      · rename_i errand' scene stepped
        cases h
        exact Moved.step owner step errand errand' scene found stepped

def happened (e : Engine σ H) : Move → List Entry
  | .pool action => entries e.pool action
  | _ => []

def poolActions (moves : List Move) : List Action :=
  moves.filterMap fun | .pool action => some action | _ => none

section Runs
variable {e e' : Engine σ H} {m : Move} {moves : List Move}

theorem moved_pool (moved : Moved e m e') :
    match m with
    | .pool action => e.pool.act? action = some e'.pool
    | _ => e'.pool = e.pool := by
  cases moved <;> first | assumption | rfl

theorem run_pool (run : e.run? moves = some e') :
    e.pool.run? (poolActions moves) = some e'.pool := by
  induction moves generalizing e with
  | nil =>
    cases run
    rfl
  | cons m rest ih =>
    simp only [run?] at run
    split at run
    · rename_i next possible
      have acted := moved_pool (move_moved possible)
      have later := ih run
      cases m with
      | pool action =>
        simp only at acted
        simpa [poolActions, Pool.run?, acted] using later
      | request | call | giveUp | step =>
        simp only at acted
        simpa [poolActions, acted] using later
    · cases run

theorem run_registry (run : e.run? moves = some e') : e'.registry = e.registry := by
  induction moves generalizing e with
  | nil =>
    cases run
    rfl
  | cons m rest ih =>
    simp only [run?] at run
    split at run
    · rename_i next possible
      have same : next.registry = e.registry := by cases move_moved possible <;> rfl
      exact (ih run).trans same
    · cases run

theorem run_snoc :
    e.run? (moves ++ [m]) = some e' ↔ ∃ mid, e.run? moves = some mid ∧ mid.move? m = some e' := by
  induction moves generalizing e with
  | nil =>
    cases move : e.move? m <;> simp [run?, move]
  | cons first rest ih =>
    simp only [List.cons_append, run?]
    cases e.move? first with
    | none => simp
    | some next => exact ih

theorem story_snoc {mid : Engine σ H} (run : e.run? moves = some mid)
    (move : mid.move? m = some e') :
    chronicle e.pool (poolActions (moves ++ [m])) =
      chronicle e.pool (poolActions moves) ++ happened mid m := by
  induction moves generalizing e with
  | nil =>
    cases run
    have acted := moved_pool (move_moved move)
    cases m with
    | pool action =>
      simp only at acted
      simp [poolActions, chronicle, happened, acted]
    | request | call | giveUp | step => simp [poolActions, chronicle, happened]
  | cons first rest ih =>
    simp only [run?] at run
    split at run
    · rename_i next possible
      have acted := moved_pool (move_moved possible)
      have later := ih run
      cases first with
      | pool action =>
        simp only at acted
        change chronicle e.pool (action :: poolActions (rest ++ [m])) =
          chronicle e.pool (action :: poolActions rest) ++ _
        simp only [chronicle, acted, later, List.append_assoc]
      | request | call | giveUp | step =>
        simp only at acted
        rw [acted] at later
        exact later
    · cases run

theorem issued_before (fresh : (issued (poolActions (moves ++ [m]))).Nodup) :
    (issued (poolActions moves)).Nodup := by
  rw [poolActions, List.filterMap_append, issued, List.filterMap_append] at fresh
  exact fresh.of_append_left

end Runs

def opening (registry : Registry H) (accessor : Accessor σ H) (workers capacity retained : Nat) :
    Engine σ H :=
  ⟨registry, .fresh accessor, [], Pool.start workers capacity retained⟩

section Openings
variable {registry : Registry H} {accessor : Accessor σ H} {workers capacity retained : Nat}
  {moves : List Move} {e : Engine σ H}

theorem opening_story_snoc {mid : Engine σ H} {m : Move}
    (run : (opening registry accessor workers capacity retained).run? moves = some mid)
    (move : mid.move? m = some e) :
    chronicle (Pool.start workers capacity retained) (poolActions (moves ++ [m])) =
      chronicle (Pool.start workers capacity retained) (poolActions moves) ++ happened mid m :=
  story_snoc run move

/-- What every move keeps as long as no id came in twice, a run keeps that makes no id twice. -/
theorem fresh_moves_keep (Inv : List Move → Engine σ H → Prop)
    (keeps : ∀ {moves mid m e},
      (opening registry accessor workers capacity retained).run? moves = some mid →
      mid.move? m = some e →
      Accounts mid.pool (chronicle (Pool.start workers capacity retained) (poolActions moves)) →
      (enteredIn (chronicle (Pool.start workers capacity retained) (poolActions moves))).Nodup →
      Inv moves mid → Inv (moves ++ [m]) e)
    (run : (opening registry accessor workers capacity retained).run? moves = some e)
    (fresh : (issued (poolActions moves)).Nodup)
    (initial : Inv [] (opening registry accessor workers capacity retained)) : Inv moves e := by
  induction moves using List.reverseRecOn generalizing e with
  | nil =>
    cases run
    exact initial
  | append_singleton rest m ih =>
    obtain ⟨mid, before, move⟩ := run_snoc.mp run
    have fresh' := issued_before fresh
    have pool := run_pool before
    have ids := (entered_chronicle pool).symm ▸ fresh'
    exact keeps before move (run_accounts pool) ids (ih before fresh')

end Openings
end CommandGateway.Engine
