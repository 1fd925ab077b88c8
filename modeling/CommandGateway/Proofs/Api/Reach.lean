import CommandGateway.Proofs.Api.Handling
import CommandGateway.Proofs.Engine.Calls
import CommandGateway.Proofs.Engine.Deeds
import CommandGateway.Proofs.Engine.Dispatches

/- What a gateway can come to: requests come in at any time, and between them workers and errands go
   on in any order, batches are queued by others, and the queue is shut down. -/
namespace CommandGateway.Api

open Pool Engine

variable {σ H : Type}

/-- A gateway before its first request. Only one that queues has workers, and it may lack them. -/
structure Gateway.IsNew (g : Gateway σ H) : Prop where
  idle : g.rota.engine.errands = []
  pool : g.rota.engine.pool = .absent ∨ g.config.mode = .async ∧
    ∃ workers capacity retained, g.rota.engine.pool = Pool.start workers capacity retained

theorem start_is_new (c : Config) (registry : Registry H) (accessor : Accessor σ H) (gate : Gate) :
    (Gateway.start c registry accessor gate).IsNew := by
  refine ⟨rfl, ?_⟩
  cases mode : c.mode with
  | sync => exact Or.inl (by simp [Gateway.start, Rota.start, poolFor, mode])
  | async => exact Or.inr ⟨mode, _, _, _, by simp [Gateway.start, Rota.start, poolFor, mode]; rfl⟩

/-- The gateways that one can become, with the ids that calls have been given meanwhile. No id is
    given twice. -/
inductive Reaches (first : Gateway σ H) : List Uuid → Gateway σ H → Prop
  | here : Reaches first [] first
  | asked {used : List Uuid} {g : Gateway σ H} (reached : Reaches first used g) (fresh : Uuid)
      (new : fresh ∉ used) (r : Request) :
      Reaches first (fresh :: used) (g.handle fresh r).gateway
  | moved {used : List Uuid} {g : Gateway σ H} (reached : Reaches first used g) (m : Move)
      (queued : m.isQueued) (new : ∀ id ∈ issued (poolActions [m]), id ∉ used) (rota : Rota σ H)
      (move : g.rota.engine.move? m = some rota.engine) :
      Reaches first (issued (poolActions [m]) ++ used) { g with rota := rota }

section Reached
variable {first g : Gateway σ H} {used : List Uuid}

/-- Without workers every errand is that of a request, and they have their numbers in order. -/
structure Inline (e : Engine σ H) : Prop where
  workers : e.pool.workers = []
  owners : e.errands.map Errand.owner = (List.range e.errands.length).map .request

theorem inline_free {e : Engine σ H} (inline : Inline e) :
    errandOf (.request e.errands.length) e.errands = none := by
  rw [errand_of_eq_none_iff, inline.owners]
  simp

theorem request_inline {e : Engine σ H} (inline : Inline e)
    (stage : Stage H (Ended DispatchOutcome)) :
    Inline { e with errands := e.errands ++ [.payload e.errands.length stage] } := by
  refine ⟨inline.workers, ?_⟩
  simp [inline.owners, List.range_succ, Errand.owner]

theorem moved_inline {e e' : Engine σ H} {m : Move} (moved : Moved e m e') (queued : m.isQueued)
    (inline : Inline e) : Inline e' := by
  cases moved with
  | begin w job pool taken acted => simp [inline.workers] at taken
  | collect w result job pool running ended acted => simp [inline.workers] at running
  | other action pool plain acted =>
    have same := step_workers (act_step acted)
    rw [inline.workers] at same
    exact ⟨List.length_eq_zero_iff.mp same, inline.owners⟩
  | request | call | giveUp => cases queued
  | step owner step errand new scene found stepped =>
    refine ⟨inline.workers, ?_⟩
    rw [replace_owners, inline.owners]
    simp [replaceErrand]

theorem handled_sound {fresh : Uuid} {r : Request} {handling : Handling σ H}
    (cases : Handles g fresh r handling) (sound : Sound used g.rota.engine.pool)
    (new : fresh ∉ used) (inline : g.config.mode = .sync → Inline g.rota.engine) :
    Sound (fresh :: used) handling.gateway.rota.engine.pool := by
  cases cases with
  | elsewhere | large | rejected => exact sound_mono [fresh] sound
  | inline posts small mode =>
    simp only [Handling.gateway, request_engine _ _ (inline_free (inline mode))]
    exact sound_mono [fresh] sound
  | queued posts small mode batch held =>
    simp only [Handling.gateway, (submit_engine fresh batch).1]
    exact submitted_sound sound new

theorem handled_inline {fresh : Uuid} {r : Request} {handling : Handling σ H}
    (cases : Handles g fresh r handling) (mode : g.config.mode = .sync)
    (inline : Inline g.rota.engine) : Inline handling.gateway.rota.engine := by
  cases cases with
  | elsewhere | large | rejected => exact inline
  | inline posts small mode =>
    simp only [Handling.gateway, request_engine _ _ (inline_free inline)]
    exact request_inline inline _
  | queued posts small async batch held =>
    rw [mode] at async
    cases async

theorem reached_sound (new : first.IsNew) (reached : Reaches first used g) :
    Sound used g.rota.engine.pool ∧ (g.config.mode = .sync → Inline g.rota.engine) := by
  induction reached with
  | here =>
    rcases new.pool with absent | ⟨mode, workers, capacity, retained, start⟩
    · refine ⟨absent ▸ absent_sound, fun _ => ⟨?_, ?_⟩⟩
      · rw [absent]
        rfl
      · simp [new.idle]
    · refine ⟨start ▸ start_sound workers capacity retained, fun sync => ?_⟩
      rw [mode] at sync
      cases sync
  | asked reached fresh unused r ih =>
    refine ⟨handled_sound (handle_cases ..) ih.1 unused ih.2, fun mode => ?_⟩
    rw [handle_config] at mode
    exact handled_inline (handle_cases ..) mode (ih.2 mode)
  | @moved used g reached m queued unused rota move ih =>
    have moved := move_moved move
    refine ⟨?_, fun mode => moved_inline moved queued (ih.2 mode)⟩
    have acted := moved_pool moved
    cases m with
    | pool action => exact step_sound (act_step acted) ih.1 unused
    | step owner step =>
      simp only at acted
      exact acted ▸ ih.1
    | request | call | giveUp => cases queued

end Reached

section Requests
variable {g later : Gateway σ H} {used : List Uuid} {n : Nat}
  {P : Stage H (Ended DispatchOutcome) → Prop}

def Serves (n : Nat) (P : Stage H (Ended DispatchOutcome) → Prop) (e : Engine σ H) : Prop :=
  ∃ stage, errandOf (.request n) e.errands = some (.payload n stage) ∧ P stage

theorem payload_step {s s' : Scene σ H} {step : Step} {new : Errand H}
    {stage : Stage H (Ended DispatchOutcome)}
    (stepped : (Errand.payload n stage).step? s step = some (new, s')) :
    ∃ stage', new = .payload n stage' ∧ Stepped (.request n) s step stage stage' s' := by
  cases errand_stepped stepped with
  | payload _ _ stage' moved => exact ⟨stage', rfl, moved⟩

theorem moved_does {P : List (Deed H) → Stage H (Ended DispatchOutcome) → Prop}
    (log : DeedLog H) {e e' : Engine σ H} {m : Move} (moved : Moved e m e')
    (keeps : ∀ {done s s' step stage stage'},
      Stepped (σ := σ) (.request n) s step stage stage' s' →
      P done stage → P (done ++ stage.deeds s step) stage')
    (serves : Serves n (P (doneBy (.request n) log)) e) :
    Serves n (P (doneBy (.request n) (log ++ deedsIn e m))) e' := by
  obtain ⟨stage, found, holds⟩ := serves
  cases moved with
  | begin | request | call =>
    exact ⟨stage, errand_of_append found _, by simpa only [deedsIn, List.append_nil]⟩
  | collect | giveUp =>
    refine ⟨stage, (errand_of_remove (by simp)).trans found, ?_⟩
    simpa only [deedsIn, List.append_nil]
  | other => exact ⟨stage, found, by simpa only [deedsIn, List.append_nil]⟩
  | step owner step errand new scene here stepped =>
    have same := errand_step_owner stepped
    have owns := (errand_of_some here).2
    by_cases own : owner = .request n
    · subst own
      obtain rfl : .payload n stage = errand := Option.some.inj (found.symm.trans here)
      obtain ⟨stage', rfl, taken⟩ := payload_step stepped
      have before : errandOf (Errand.payload n stage').owner e.errands = some (.payload n stage) :=
        found
      refine ⟨stage', errand_of_replace_own before, ?_⟩
      simp only [deedsIn, here, done_by_append, done_by_own]
      exact keeps taken holds
    · have apart : new.owner ≠ .request n := by rwa [same, owns]
      refine ⟨stage, (errand_of_replace_other apart).trans found, ?_⟩
      simpa only [deedsIn, here, done_by_append, done_by_other own, List.append_nil] using holds

theorem moved_serves {e e' : Engine σ H} {m : Move} (moved : Moved e m e')
    (keeps : ∀ {s s' step stage stage'}, Stepped (σ := σ) (.request n) s step stage stage' s' →
      P stage → P stage')
    (serves : Serves n P e) : Serves n P e' :=
  moved_does (P := fun _ => P) [] moved keeps serves

theorem handled_serves {fresh : Uuid} {r : Request} {handling : Handling σ H}
    (cases : Handles g fresh r handling) (serves : Serves n P g.rota.engine) :
    Serves n P handling.gateway.rota.engine := by
  cases cases with
  | elsewhere | large | rejected => exact serves
  | inline posts small mode =>
    -- whether its number is free or not, the new request leaves the errands before it alone
    cases free : errandOf (.request g.rota.engine.errands.length) g.rota.engine.errands with
    | none =>
      obtain ⟨stage, found, holds⟩ := serves
      refine ⟨stage, ?_, holds⟩
      rw [Handling.gateway, request_engine _ _ free]
      exact errand_of_append found _
    | some errand =>
      simp only [Handling.gateway, Rota.request, wake_engine, Rota.allow, Rota.play, move?, free]
      exact serves
  | queued posts small mode batch held =>
    rw [Handling.gateway, (submit_engine fresh batch).1]
    exact serves

theorem reached_serves (reached : Reaches g used later)
    (keeps : ∀ {s s' step stage stage'}, Stepped (σ := σ) (.request n) s step stage stage' s' →
      P stage → P stage')
    (serves : Serves n P g.rota.engine) : Serves n P later.rota.engine := by
  induction reached with
  | here => exact serves
  | asked reached fresh new r ih => exact handled_serves (handle_cases ..) ih
  | moved reached m queued new rota move ih => exact moved_serves (move_moved move) keeps ih

end Requests
end CommandGateway.Api
