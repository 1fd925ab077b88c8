import CommandGateway.Proofs.Pool.Census
import CommandGateway.Proofs.Pool.Shutdown

/- What a call for shutdown has waited for when it returns. Only the first call takes the workers
   over; any other finds none left to wait for and may return at once, so its return says something
   only when no call is still waiting. -/
namespace CommandGateway.Pool

def Waiting (p : Pool) (call : Nat) : Prop :=
  ∃ workers, workers ≠ [] ∧ p.shutdowns[call]? = some (.joining workers)

/-- No batch that was accepted is still queued or running. -/
def NoneLeft (p : Pool) (story : List Entry) : Prop :=
  ∀ job ∈ acceptedIn story,
    p.tracker.get? job.id ≠ some .queued ∧ p.tracker.get? job.id ≠ some .running

section Returns
variable {p : Pool} {past story : List Entry} {call : Nat}

/-- Of the calls that have returned one took the workers over, unless such a call still waits. -/
theorem returned_gone (handed : Handover p past) (returned : p.shutdowns[call]? = some .returned)
    (nobody : ∀ other, ¬ Waiting p other) (some : p.workers ≠ []) :
    ∀ phase ∈ p.workers, phase = .gone := by
  cases handed with
  | nobody none left some closed => cases closed _ (List.mem_of_getElem? returned)
  | joining first one left found =>
    have workers : List.range p.workers.length ≠ [] := by
      simpa [List.range_eq_nil] using some
    exact absurd ⟨_, workers, found⟩ (nobody first)
  | returned first one left found gone => exact gone

theorem drained_none_left (acc : Accounts p story) (tracks : Tracks p story)
    (fresh : (enteredIn story).Nodup) (drained : Drained p story) : NoneLeft p story := by
  intro job accepted
  obtain ⟨entry, recorded, rfl⟩ := List.mem_map.mp (drained.recorded.mem_iff.mpr accepted)
  exact finished_state acc tracks fresh (List.mem_map_of_mem recorded)

end Returns

section Runs
variable {p : Pool} {acts : List Action} {workers capacity retained : Nat}

/-- When a call for shutdown has returned and none is still waiting, nothing that was accepted is
    left in the queue or with a worker. -/
theorem shutdown_waits_for_all (run : (start workers capacity retained).run? acts = some p)
    (fresh : (issued acts).Nodup) (call : Nat) (returned : p.shutdowns[call]? = some .returned)
    (nobody : ∀ other, ¬ Waiting p other) :
    Drained p (chronicle (start workers capacity retained) acts) ∧
    NoneLeft p (chronicle (start workers capacity retained) acts) := by
  have count := (run_dimensions run).count
  have some : p.workers ≠ [] := List.ne_nil_of_length_pos (by omega)
  have gone := returned_gone (run_handover run) returned nobody some
  obtain ⟨phase, one⟩ : ∃ phase, p.workers[0]? = .some phase :=
    ⟨_, List.getElem?_eq_getElem (by omega)⟩
  obtain rfl := gone phase (List.mem_of_getElem? one)
  have dry := run_none_left_early run 0 one
  have acc := run_accounts run
  have tracks := run_tracks run fresh
  have entered := (entered_chronicle run).symm ▸ fresh
  have drained := all_gone_drained acc tracks (run_tickets run fresh) entered dry.2 gone
  exact ⟨drained, drained_none_left acc tracks entered drained⟩

/-- Of two calls the second comes while the first one waits for a worker that has a batch, with
    another batch in the queue. -/
def overlapping : List Action :=
  [.enter (Uuid.ofNat 1) untagged, .track 0, .send 0,
    .enter (Uuid.ofNat 2) untagged, .track 1, .send 1, .take 0, .mark 0,
    .close, .join 0, .close, .join 1, .return 1]

theorem overlapping_shutdown_returns_early : ∃ p,
    (start 1 2 1).run? overlapping = some p ∧ p.shutdowns[1]? = some .returned ∧
    p.tracker.get? (Uuid.ofNat 1) = some .running ∧
    p.tracker.get? (Uuid.ofNat 2) = some .queued ∧
    ¬ NoneLeft p (chronicle (start 1 2 1) overlapping) := by
  have run : (start 1 2 1).run? overlapping = some _ := rfl
  have accepted : acceptedIn (chronicle (start 1 2 1) overlapping) =
      [⟨Uuid.ofNat 1, untagged⟩, ⟨Uuid.ofNat 2, untagged⟩] := rfl
  refine ⟨_, run, rfl, rfl, rfl, fun none => ?_⟩
  exact (none ⟨Uuid.ofNat 1, untagged⟩ (by simp [accepted])).2 rfl

def bothReturn : List Action :=
  overlapping ++ [.finish 0 (.panicked .other), .record 0, .deliver 0, .take 0, .mark 0,
    .finish 0 (.panicked .other), .record 0, .deliver 0, .leave 0, .return 0]

theorem shutdown_waits_for_both : ∃ p, (start 1 2 1).run? bothReturn = some p ∧
    (issued bothReturn).Nodup ∧ p.shutdowns[1]? = some .returned ∧
    (∀ other, ¬ Waiting p other) ∧
    Drained p (chronicle (start 1 2 1) bothReturn) ∧
    NoneLeft p (chronicle (start 1 2 1) bothReturn) := by
  have run : (start 1 2 1).run? bothReturn = some _ := rfl
  have fresh : (issued bothReturn).Nodup := by decide
  refine ⟨_, run, fresh, rfl, ?nobody, shutdown_waits_for_all run fresh 1 rfl ?nobody⟩
  rintro other ⟨workers, some, found⟩
  have member : Shutdown.joining workers ∈ [Shutdown.returned, .returned] :=
    List.mem_of_getElem? found
  simp at member

end Runs
end CommandGateway.Pool
