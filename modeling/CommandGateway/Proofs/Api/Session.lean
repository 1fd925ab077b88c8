import CommandGateway.Api.Exchange
import CommandGateway.Proofs.Api.Discretion
import CommandGateway.Proofs.Engine.Fairness
import CommandGateway.Proofs.Engine.Speech

/- Sessions turn by turn. Whatever a future waits for is a task, so nobody but the client can tell
   that it has hung up; and each turn is a move or two of the gateway's engine, or none. -/
namespace CommandGateway.Api

open Pool Engine

variable {σ H : Type}

theorem run_append (s : Session σ H) (first second : List Turn) :
    s.run (first ++ second) = (s.run first).run second := List.foldl_append

def Detached (s : Session σ H) : Prop :=
  ∀ (i : Nat) (wait : Wait), s.exchanges[i]? = some (.suspended wait) →
    ∃ owner, wait = .spawned owner

/-- Only the exchange with this number may tell the sessions apart. -/
structure Unnoticed (i : Nat) (s s' : Session σ H) : Prop where
  gateway : s'.gateway = s.gateway
  count : s'.exchanges.length = s.exchanges.length
  others : ∀ j, j ≠ i → s'.exchanges[j]? = s.exchanges[j]?

def Turn.hangsUp (i : Nat) : Turn → Bool
  | .hangUp j => j = i
  | _ => false

def patient (i : Nat) (turns : List Turn) : List Turn := turns.filter fun t => !t.hangsUp i

section Futures
variable {s s' : Session σ H} {i : Nat} {t : Turn} {turns : List Turn}

theorem poll_suspended {g : Gateway σ H} {exchange : Exchange} {wait : Wait}
    (polled : exchange.poll g = .suspended wait) : exchange = .suspended wait := by
  unfold Exchange.poll at polled
  split at polled
  · split at polled
    · cases polled
    · exact polled
  · exact polled

theorem hang_up_gateway (detached : Detached s) (i : Nat) : (s.hangUp i).gateway = s.gateway := by
  unfold Session.hangUp
  split
  · rename_i wait suspended
    obtain ⟨owner, rfl⟩ := detached i wait suspended
    rfl
  · rfl

theorem hang_up_exchange {j : Nat} {exchange : Exchange}
    (found : (s.hangUp i).exchanges[j]? = some exchange) :
    s.exchanges[j]? = some exchange ∨ j = i ∧ exchange = .dropped := by
  unfold Session.hangUp at found
  split at found
  · simp only [List.getElem?_set] at found
    split at found
    · rename_i same
      split at found
      · exact Or.inr ⟨same.symm, (Option.some.inj found).symm⟩
      · cases found
    · exact Or.inl found
  · exact Or.inl found

theorem ask_exchanges (s : Session σ H) (fresh : Uuid) (r : Request) :
    ∃ exchange, (s.ask fresh r).exchanges = s.exchanges ++ [exchange] ∧
      ∀ wait, exchange = .suspended wait → ∃ owner, wait = .spawned owner := by
  unfold Session.ask
  split
  · exact ⟨_, rfl, nofun⟩
  · refine ⟨_, rfl, ?_⟩
    rintro wait ⟨⟩
    exact ⟨_, rfl⟩

theorem turn_detached (detached : Detached s) (t : Turn) : Detached (s.turn t) := by
  intro j wait found
  cases t with
  | ask fresh r =>
    obtain ⟨exchange, added, spawned⟩ := ask_exchanges s fresh r
    rw [Session.turn, added, List.getElem?_append] at found
    split at found
    · exact detached j wait found
    · refine spawned wait ?_
      have here := List.mem_of_getElem? found
      exact (List.mem_singleton.mp here).symm
  | poll i =>
    simp only [Session.turn, List.getElem?_modify, Option.map_eq_map, Option.map_eq_some_iff]
      at found
    obtain ⟨exchange, here, polled⟩ := found
    split at polled
    · exact detached j wait (here.trans (congrArg some (poll_suspended polled)))
    · exact detached j wait (here.trans (congrArg some polled))
  | hangUp i =>
    rcases hang_up_exchange found with here | ⟨-, dropped⟩
    · exact detached j wait here
    · cases dropped
  | pool | step => exact detached j wait found

theorem run_detached (detached : Detached s) (turns : List Turn) : Detached (s.run turns) := by
  induction turns generalizing s with
  | nil => exact detached
  | cons t rest ih => exact ih (turn_detached detached t)

/-- The drop of one future is no turn to anybody else. -/
theorem hang_up_unnoticed (detached : Detached s) (unnoticed : Unnoticed i s s') :
    Unnoticed i (s.hangUp i) s' := by
  obtain ⟨gateway, count, others⟩ := unnoticed
  refine ⟨gateway.trans (hang_up_gateway detached i).symm, ?_, ?_⟩
  · rw [count]
    unfold Session.hangUp
    split
    · exact (List.length_set ..).symm
    · rfl
  · intro j apart
    rw [others j apart]
    unfold Session.hangUp
    split
    · exact (List.getElem?_set_ne (Ne.symm apart)).symm
    · rfl

theorem turn_unnoticed (other : t.hangsUp i = false) (unnoticed : Unnoticed i s s') :
    Unnoticed i (s.turn t) (s'.turn t) := by
  obtain ⟨gateway, count, others⟩ := unnoticed
  obtain ⟨g, before⟩ := s
  obtain ⟨g', before'⟩ := s'
  obtain rfl : g' = g := gateway
  simp only at count others
  have added : ∀ (g : Gateway σ H) (exchange : Exchange),
      Unnoticed i ⟨g, before ++ [exchange]⟩ ⟨g, before' ++ [exchange]⟩ := by
    refine fun g exchange => ⟨rfl, by simp [count], fun j apart => ?_⟩
    simp only [List.getElem?_append, count, others j apart]
  cases t with
  | ask fresh r =>
    simp only [Session.turn, Session.ask]
    split <;> exact added ..
  | poll k =>
    refine ⟨rfl, by simp [Session.turn, count], fun j apart => ?_⟩
    simp only [Session.turn, List.getElem?_modify, others j apart]
  | hangUp k =>
    have apart : k ≠ i := by simpa [Turn.hangsUp] using other
    simp only [Session.turn, Session.hangUp, others k apart]
    split
    · refine ⟨rfl, by simp [count], fun j apart => ?_⟩
      simp only [List.getElem?_set, count, others j apart]
    · exact ⟨rfl, count, others⟩
  | pool action => exact ⟨rfl, count, others⟩
  | step owner step => exact ⟨rfl, count, others⟩

theorem run_unnoticed (detached : Detached s) (unnoticed : Unnoticed i s s') :
    Unnoticed i (s.run turns) (s'.run (patient i turns)) := by
  induction turns generalizing s s' with
  | nil => exact unnoticed
  | cons t rest ih =>
    have detached' := turn_detached detached t
    cases hangs : t.hangsUp i with
    | false =>
      have kept : patient i (t :: rest) = t :: patient i rest := by simp [patient, hangs]
      rw [kept]
      exact ih detached' (turn_unnoticed hangs unnoticed)
    | true =>
      have left : patient i (t :: rest) = patient i rest := by simp [patient, hangs]
      rw [left]
      refine ih detached' ?_
      cases t with
      | hangUp k =>
        obtain rfl : k = i := by simpa [Turn.hangsUp] using hangs
        exact hang_up_unnoticed detached unnoticed
      | _ => cases hangs

end Futures

def Session.taken (s : Session σ H) : Turn → Option (Owner × Step)
  | .step owner step => if (s.engine.step? owner step).isSome then some (owner, step) else none
  | _ => none

def Session.deeds (s : Session σ H) (t : Turn) : DeedLog H :=
  match s.taken t with
  | some (owner, step) => deedsIn s.engine (.step owner step)
  | none => []

def Session.log (s : Session σ H) : List Turn → DeedLog H
  | [] => []
  | t :: rest => s.deeds t ++ (s.turn t).log rest

/-- What a turn can do to the gateway. -/
inductive Turned (s : Session σ H) : Turn → Gateway σ H → Prop
  | still (t : Turn) (idle : s.taken t = none) : Turned s t s.gateway
  | asked (fresh : Uuid) (r : Request) :
      Turned s (.ask fresh r) (s.gateway.handle fresh r).gateway
  | acted (action : Action) (e : Engine σ H) (move : s.engine.move? (.pool action) = some e) :
      Turned s (.pool action) (s.gateway.withEngine e)
  | stepped (owner : Owner) (step : Step) (e : Engine σ H)
      (move : s.engine.move? (.step owner step) = some e) :
      Turned s (.step owner step) (s.gateway.withEngine e)

section Turns
variable {s : Session σ H} {t : Turn} {g : Gateway σ H} {n : Nat}

theorem play_gateway (m : Move) :
    (s.play m).gateway = s.gateway.withEngine ((s.engine.move? m).getD s.engine) := rfl

theorem turn_turned (detached : Detached s) (t : Turn) : Turned s t (s.turn t).gateway := by
  cases t with
  | ask fresh r =>
    have same : (s.ask fresh r).gateway = (s.gateway.handle fresh r).gateway := by
      unfold Session.ask
      split <;> rename_i handled <;> rw [handled] <;> rfl
    exact same ▸ .asked fresh r
  | poll => exact .still _ rfl
  | hangUp i => exact (hang_up_gateway detached i).symm ▸ .still (.hangUp i) rfl
  | pool action =>
    rw [Session.turn, play_gateway]
    cases move : s.engine.move? (.pool action) with
    | none => exact .still _ rfl
    | some e => exact .acted action e move
  | step owner step =>
    rw [Session.turn, play_gateway]
    cases move : s.engine.move? (.step owner step) with
    | none =>
      have impossible : s.engine.step? owner step = none := move
      exact .still _ (by simp [Session.taken, impossible])
    | some e => exact .stepped owner step e move

theorem still_deeds (idle : s.taken t = none) : s.deeds t = [] := by
  rw [Session.deeds, idle]

theorem stepped_taken {owner : Owner} {step : Step} {e : Engine σ H}
    (move : s.engine.move? (.step owner step) = some e) :
    s.taken (.step owner step) = some (owner, step) := by
  have possible : s.engine.step? owner step = some e := move
  simp [Session.taken, possible]

theorem stepped_deeds {owner : Owner} {step : Step} {e : Engine σ H}
    (move : s.engine.move? (.step owner step) = some e) :
    s.deeds (.step owner step) = deedsIn s.engine (.step owner step) := by
  rw [Session.deeds, stepped_taken move]

theorem turned_does {P : List (Deed H) → Stage H (Ended DispatchOutcome) → Prop}
    (turned : Turned s t g)
    (keeps : ∀ {done s s' step stage stage'},
      Stepped (σ := σ) (.request n) s step stage stage' s' →
      P done stage → P (done ++ stage.deeds s step) stage')
    (log : DeedLog H) (serves : Serves n (P (doneBy (.request n) log)) s.engine) :
    Serves n (P (doneBy (.request n) (log ++ s.deeds t))) g.rota.engine := by
  cases turned with
  | still _ idle => rwa [still_deeds idle, List.append_nil]
  | asked fresh r =>
    rw [still_deeds rfl, List.append_nil]
    exact handled_serves (handle_cases ..) serves
  | acted action e move =>
    rw [still_deeds rfl]
    exact moved_does log (move_moved move) keeps serves
  | stepped owner step e move =>
    rw [stepped_deeds move]
    exact moved_does log (move_moved move) keeps serves

theorem run_does {P : List (Deed H) → Stage H (Ended DispatchOutcome) → Prop}
    (detached : Detached s)
    (keeps : ∀ {done s s' step stage stage'},
      Stepped (σ := σ) (.request n) s step stage stage' s' →
      P done stage → P (done ++ stage.deeds s step) stage')
    (log : DeedLog H) (serves : Serves n (P (doneBy (.request n) log)) s.engine)
    (turns : List Turn) :
    Serves n (P (doneBy (.request n) (log ++ s.log turns))) (s.run turns).engine := by
  induction turns generalizing s log with
  | nil => rwa [Session.log, List.append_nil]
  | cons t rest ih =>
    have next := turned_does (turn_turned detached t) keeps log serves
    have later := ih (turn_detached detached t) _ next
    rwa [List.append_assoc] at later

end Turns

section Robots
variable {s : Session σ H} {t : Turn} {g : Gateway σ H} {connector : Connector σ H}

theorem handle_scene {fresh : Uuid} {r : Request} :
    (g.handle fresh r).gateway.rota.engine.scene = g.rota.engine.scene := by
  have cases := handle_cases g fresh r
  generalize g.handle fresh r = handling at cases
  cases cases with
  | elsewhere | large | rejected => rfl
  | queued _ _ _ batch held => rw [Handling.gateway, (submit_engine fresh batch).1]
  | inline =>
    simp only [Handling.gateway, Rota.request, wake_engine, Rota.allow, Rota.play]
    cases move : g.rota.engine.move? (.request g.rota.engine.errands.length r.body) with
    | none => rfl
    | some e =>
      cases move_moved move
      rfl

theorem turned_heard (turned : Turned s t g)
    (online : s.engine.scene.accessor.connector = some connector) :
    g.rota.engine.scene.accessor.connector = some connector ∧
      heard g.rota.engine.scene = heard s.engine.scene ++ spokenIn (s.deeds t) := by
  cases turned with
  | still _ idle => exact ⟨online, by rw [still_deeds idle]; exact (List.append_nil _).symm⟩
  | asked fresh r =>
    rw [handle_scene, still_deeds rfl]
    exact ⟨online, (List.append_nil _).symm⟩
  | acted action e move =>
    have moved := move_moved move
    rw [still_deeds rfl]
    refine ⟨?_, moved_heard moved online⟩
    cases moved <;> exact online
  | stepped owner step e move =>
    have moved := move_moved move
    rw [stepped_deeds move]
    refine ⟨?_, moved_heard moved online⟩
    cases moved with
    | step _ _ errand new scene found stepped => exact (errand_online stepped).1.trans online

theorem run_heard (detached : Detached s)
    (online : s.engine.scene.accessor.connector = some connector) (turns : List Turn) :
    heard (s.run turns).engine.scene = heard s.engine.scene ++ spokenIn (s.log turns) := by
  induction turns generalizing s with
  | nil => exact (List.append_nil _).symm
  | cons t rest ih =>
    obtain ⟨online', told⟩ := turned_heard (turn_turned detached t) online
    have later := ih (turn_detached detached t) online'
    rw [Session.log, spoken_append, ← List.append_assoc]
    exact later.trans (congrArg (· ++ _) told)

end Robots

structure Serving (s : Session σ H) : Prop where
  sync : s.gateway.config.mode = .sync
  detached : Detached s
  inline : Inline s.engine
  orderly : Orderly s.engine

section Serving
variable {s : Session σ H} {t : Turn}

theorem inline_nodup {e : Engine σ H} (inline : Inline e) : (e.errands.map Errand.owner).Nodup := by
  rw [inline.owners]
  exact List.nodup_range.map fun a b same => Owner.request.inj same

theorem turn_serving (serving : Serving s) (t : Turn) :
    Serving (s.turn t) ∧ Passes s.engine (s.turn t).engine (s.taken t) := by
  obtain ⟨sync, detached, inline, orderly⟩ := serving
  have detached' := turn_detached detached t
  have turned := turn_turned detached t
  generalize s.turn t = after at detached' turned
  obtain ⟨g, exchanges⟩ := after
  simp only at turned
  have still : Passes s.engine s.engine none := .other rfl fun owner errand found _ => found
  cases turned with
  | still _ idle => exact ⟨⟨sync, detached', inline, orderly⟩, idle ▸ still⟩
  | asked fresh r =>
    have mode : (s.gateway.handle fresh r).gateway.config.mode = .sync := by
      rw [handle_config, sync]
    have cases := handle_cases s.gateway fresh r
    generalize s.gateway.handle fresh r = handling at cases detached' mode
    have inline' := handled_inline cases sync inline
    cases cases with
    | elsewhere | large => exact ⟨⟨sync, detached', inline, orderly⟩, still⟩
    | rejected posts small async => rw [sync] at async; cases async
    | queued posts small async => rw [sync] at async; cases async
    | inline posts small _ =>
      have moved := request_moved (r := s.gateway.rota) r.body (inline_free inline)
      exact ⟨⟨sync, detached', inline',
        move_orderly moved nofun (inline_nodup inline') orderly⟩, moved_passes moved nofun nofun⟩
  | acted action e move =>
    have moved := move_moved move
    have inline' := moved_inline moved rfl inline
    exact ⟨⟨sync, detached', inline', move_orderly moved nofun (inline_nodup inline') orderly⟩,
      moved_passes moved nofun nofun⟩
  | stepped owner step e move =>
    have moved := move_moved move
    have inline' := moved_inline moved rfl inline
    rw [stepped_taken move]
    exact ⟨⟨sync, detached', inline', move_orderly moved nofun (inline_nodup inline') orderly⟩,
      .step owner step move⟩

def Session.after (s : Session σ H) (turns : Nat → Turn) (n : Nat) : Session σ H :=
  s.run ((List.range n).map turns)

/-- No step that is possible again and again is left out for ever. -/
def FairTurns (s : Session σ H) (turns : Nat → Turn) : Prop :=
  Fair (fun n => (s.after turns n).engine) fun n => (s.after turns n).taken (turns n)

theorem after_succ (turns : Nat → Turn) (n : Nat) :
    s.after turns (n + 1) = (s.after turns n).turn (turns n) := by
  rw [Session.after, List.range_succ, List.map_append, run_append]
  rfl

theorem after_serving (serving : Serving s) (turns : Nat → Turn) (n : Nat) :
    Serving (s.after turns n) := by
  induction n with
  | zero => exact serving
  | succ n ih =>
    rw [after_succ]
    exact (turn_serving ih (turns n)).1

theorem after_rest {turns : Nat → Turn} {k : Nat} {last : Session σ H}
    (here : s.after turns k = last) (idle : ∀ n, k ≤ n → last.turn (turns n) = last) :
    ∀ n, k ≤ n → s.after turns n = last := by
  intro n later
  induction n, later using Nat.le_induction with
  | base => exact here
  | succ n later ih => rw [after_succ, ih, idle n later]

theorem fair_of_rest {turns : Nat → Turn} {k : Nat} {last : Session σ H}
    (rest : ∀ n, k ≤ n → s.after turns n = last)
    (ended : ∀ errand ∈ last.engine.errands, errand.standing = .finished) : FairTurns s turns := by
  intro owner step again
  obtain ⟨n, later, can⟩ := again k
  simp only [rest n later] at can
  exact absurd can (finished_still ended step)

/-- The errand of every request comes to its end, whether or not anybody waits for it. -/
theorem errand_finishes (serving : Serving s) {turns : Nat → Turn} (fair : FairTurns s turns)
    {owner : Owner} {errand : Errand H} (found : errandOf owner s.engine.errands = some errand) :
    ∃ n last, errandOf owner (s.after turns n).engine.errands = some last ∧
      last.standing = .finished := by
  have passes : ∀ n, Passes (s.after turns n).engine (s.after turns (n + 1)).engine
      ((s.after turns n).taken (turns n)) := by
    intro n
    rw [after_succ]
    exact (turn_serving (after_serving serving turns n) (turns n)).2
  have orderly := fun n => (after_serving serving turns n).orderly
  have first : errandOf owner (s.after turns 0).engine.errands = some errand := found
  obtain ⟨n, last, -, here, finished⟩ := fair_errand_finishes passes orderly fair first
  exact ⟨n, last, here, finished⟩

end Serving
end CommandGateway.Api
