import CommandGateway.Engine.Rota
import CommandGateway.Proofs.Engine.Moves
import CommandGateway.Proofs.Pool.Submit

/- What the calls of a rota do to its engine. Whose turn is next, and for how long, is no part of
   it. -/
namespace CommandGateway.Engine

open Pool

variable {σ H : Type} {r : Rota σ H}

theorem wake_engine (threads : List Thread) : (r.wake threads).engine = r.engine := by
  unfold Rota.wake
  split <;> rfl

theorem play_plain {action : Action} (plain : Plain action) :
    (r.play (.pool action)).engine = { r.engine with pool := played r.engine.pool action } := by
  simp only [Rota.play, move?, act?, played]
  cases r.engine.pool.act? action with
  | none => rfl
  | some pool =>
    cases action with
    | mark w => exact absurd rfl (plain w).1
    | finish w result => exact absurd rfl ((plain w).2 result)
    | _ => rfl

theorem play_all_plain {actions : List Action} (plain : ∀ action ∈ actions, Plain action) :
    (actions.foldl (fun r action => r.play (.pool action)) r).engine =
      { r.engine with pool := actions.foldl played r.engine.pool } := by
  induction actions generalizing r with
  | nil => rfl
  | cons action rest ih =>
    rw [List.foldl_cons, ih fun a member => plain a (List.mem_cons_of_mem _ member),
      play_plain (plain action List.mem_cons_self)]
    rfl

theorem submission_plain {action : Action} {call : Nat} {id : Uuid} {batch : Batch}
    (member : action ∈ submission call id batch) : Plain action := by
  simp only [submission, List.mem_cons, List.not_mem_nil, or_false] at member
  rcases member with rfl | rfl | rfl | rfl <;> simp [Plain]

theorem submit_engine (id : Uuid) (batch : Batch) :
    (r.submit id batch).2.engine =
        { r.engine with pool := submitted r.engine.pool id batch } ∧
      (r.submit id batch).1 =
        (submitted r.engine.pool id batch).answerTo r.engine.pool.submissions.length := by
  have plain : ∀ action ∈ submission r.engine.pool.submissions.length id batch, Plain action :=
    fun action => submission_plain
  have played := play_all_plain (r := r) plain
  simp only [Rota.submit]
  split
  · rename_i answer
    rw [played] at answer
    refine ⟨?_, answer.symm⟩
    rw [Rota.wakeReceiver, wake_engine]
    exact played
  · rename_i e answer
    rw [played] at answer
    exact ⟨played, answer.symm⟩

theorem submit_submitted {used : List Uuid} {id : Uuid} (batch : Batch)
    (sound : Sound used r.engine.pool) (new : id ∉ used) :
    Submitted r.engine.pool id batch (r.submit id batch).1 (r.submit id batch).2.engine.pool := by
  obtain ⟨engine, answer⟩ := submit_engine (r := r) id batch
  rw [engine, answer]
  exact submitted_cases sound new

theorem request_engine (n : Nat) (body : Bytes)
    (free : errandOf (.request n) r.engine.errands = none) :
    (r.request n body).engine =
      { r.engine with
        errands := r.engine.errands ++
          [.payload n (.ready (dispatchPayload r.engine.registry body))] } := by
  rw [Rota.request, wake_engine, Rota.allow, Rota.play, move?, free]
  rfl

theorem request_moved {n : Nat} (body : Bytes)
    (free : errandOf (.request n) r.engine.errands = none) :
    Moved r.engine (.request n body) (r.request n body).engine := by
  rw [request_engine n body free]
  exact .request n body free

end CommandGateway.Engine
