import CommandGateway.Proofs.Pool.Accounts

/- A pool with one worker. What comes to a place has left it since or is there now, and here also
   in the same order: batches are taken, dispatched and recorded in the order in which they came. -/
namespace CommandGateway.Pool

structure Lone (p : Pool) (past : List Entry) : Prop where
  worker : ∃ phase, p.workers = [phase]
  waiting : takenIn past = dispatchedIn past ++ p.workers.filterMap Phase.waiting?
  running : dispatchedIn past =
    (recordedIn past).map Prod.fst ++ p.workers.filterMap Phase.running?

section Steps
variable {p q : Pool} {a : Action} {es past : List Entry} {w : Nat} {phase before : Phase}

theorem only_worker (one : p.workers = [phase]) (found : p.workers[w]? = some before) :
    w = 0 ∧ phase = before := by
  rw [one] at found
  cases w with
  | zero => exact ⟨rfl, Option.some.inj found⟩
  | succ w => cases found

theorem lone_step (step : Step p a es q) (lone : Lone p past) : Lone q (past ++ es) := by
  obtain ⟨⟨phase, one⟩, waiting, running⟩ := lone
  rw [one] at waiting running
  simp only [takenIn, dispatchedIn, recordedIn] at waiting running
  cases step with
  | take w job rest found _ | mark w job found | finish w job result found
  | record w job result found | deliver w job result found | leave w found _ _ =>
    obtain ⟨rfl, rfl⟩ := only_worker one found
    refine ⟨⟨_, congrArg (List.set · 0 _) one⟩, ?_, ?_⟩
    · simpa [takenIn, dispatchedIn, one, List.filterMap_cons, Phase.waiting?] using waiting
    · simpa [dispatchedIn, recordedIn, one, List.filterMap_cons, Phase.running?] using running
  | _ =>
    refine ⟨⟨phase, one⟩, ?_, ?_⟩
    · simpa [takenIn, dispatchedIn, one] using waiting
    · simpa [dispatchedIn, recordedIn, one] using running

theorem run_lone {acts : List Action} {workers capacity retained : Nat} (few : workers ≤ 1)
    (run : (start workers capacity retained).run? acts = some p) :
    Lone p (chronicle (start workers capacity retained) acts) := by
  refine run_keeps lone_step run [] ?_
  have one : (start workers capacity retained).workers = [.idle] := by
    simp [start, Nat.max_eq_right few]
  exact ⟨⟨_, one⟩, by rw [one]; rfl, by rw [one]; rfl⟩

end Steps
end CommandGateway.Pool
