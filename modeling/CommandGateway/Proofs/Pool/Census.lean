import CommandGateway.Proofs.Pool.Truth

/- How many jobs are where, and what the tracker says of them. While no job is on its way from the
   queue to a dispatch, every job that was accepted is finished, with a worker or in the queue. -/
namespace CommandGateway.Pool

section Places
variable {p : Pool} {past : List Entry} {job : Job}

theorem queued_undispatched (acc : Accounts p past) (fresh : (enteredIn past).Nodup)
    (here : job ∈ p.queue) :
    job ∈ acceptedIn past ∧ job.id ∉ (dispatchedIn past).map Job.id := by
  have apart := accepted_nodup acc fresh
  rw [acc.queued, List.map_append, List.nodup_append] at apart
  refine ⟨acc.queued ▸ List.mem_append_right _ here, fun dispatched => ?_⟩
  obtain ⟨other, member, same⟩ := List.mem_map.mp dispatched
  have taken : other ∈ takenIn past := acc.waiting.mem_iff.mpr (List.mem_append_left _ member)
  exact apart.2.2 _ (List.mem_map_of_mem taken) _ (List.mem_map_of_mem here) same

theorem busy_dispatched (acc : Accounts p past) (fresh : (enteredIn past).Nodup)
    (here : job ∈ p.workers.filterMap Phase.running?) :
    job ∈ dispatchedIn past ∧ job.id ∉ recordedIds past := by
  refine ⟨acc.running.mem_iff.mpr (List.mem_append_right _ here), ?_⟩
  obtain ⟨phase, member, running⟩ := List.mem_filterMap.mp here
  obtain ⟨w, found⟩ := List.getElem?_of_mem member
  exact running_not_recorded acc fresh found running

theorem queued_state (acc : Accounts p past) (tracks : Tracks p past)
    (fresh : (enteredIn past).Nodup) (here : job ∈ p.queue) :
    p.tracker.get? job.id = some .queued ∧ job.id ∉ recordedIds past := by
  obtain ⟨accepted, undispatched⟩ := queued_undispatched acc fresh here
  refine ⟨(truthful acc tracks fresh).queued job accepted undispatched, fun recorded => ?_⟩
  exact undispatched (recorded_id_dispatched acc recorded)

theorem busy_state (acc : Accounts p past) (tracks : Tracks p past)
    (fresh : (enteredIn past).Nodup) (here : job ∈ p.workers.filterMap Phase.running?) :
    p.tracker.get? job.id = some .running ∧ job.id ∉ recordedIds past := by
  obtain ⟨dispatched, unrecorded⟩ := busy_dispatched acc fresh here
  exact ⟨(truthful acc tracks fresh).running job dispatched unrecorded, unrecorded⟩

theorem finished_recorded_id (finished : job ∈ (recordedIn past).map Prod.fst) :
    job.id ∈ recordedIds past := by
  simpa [recordedIds] using List.mem_map_of_mem (f := Job.id) finished

theorem finished_state (acc : Accounts p past) (tracks : Tracks p past)
    (fresh : (enteredIn past).Nodup) {id : Uuid} (recorded : id ∈ recordedIds past) :
    p.tracker.get? id ≠ some .queued ∧ p.tracker.get? id ≠ some .running := by
  obtain ⟨⟨job, result⟩, member, rfl⟩ := List.mem_map.mp recorded
  rw [tracks.states, told_recorded (recorded_nodup acc fresh) member]
  split <;> cases result <;> simp [outcome]

def NoneTaken (p : Pool) : Prop := p.workers.filterMap Phase.waiting? = []

theorem begun_places (acc : Accounts p past) (none : NoneTaken p) :
    (takenIn past).Perm
      ((recordedIn past).map Prod.fst ++ p.workers.filterMap Phase.running?) := by
  have waiting := acc.waiting
  rw [show p.workers.filterMap Phase.waiting? = [] from none, List.append_nil] at waiting
  exact waiting.trans acc.running

theorem count_accepted (acc : Accounts p past) (none : NoneTaken p) (kind : Job → Bool) :
    (acceptedIn past).countP kind = ((recordedIn past).map Prod.fst).countP kind +
      (p.workers.filterMap Phase.running?).countP kind + p.queue.countP kind := by
  rw [acc.queued, List.countP_append, (begun_places acc none).countP_eq, List.countP_append]

theorem running_count (acc : Accounts p past) (tracks : Tracks p past)
    (fresh : (enteredIn past).Nodup) (none : NoneTaken p) :
    (acceptedIn past).countP (fun job => p.tracker.get? job.id = some .running) =
      (p.workers.filterMap Phase.running?).length := by
  rw [count_accepted acc none, List.countP_eq_zero.mpr ?finished, List.countP_eq_length.mpr ?busy,
    List.countP_eq_zero.mpr ?queued]
  case finished =>
    intro job member
    simpa using (finished_state acc tracks fresh (finished_recorded_id member)).2
  case busy => exact fun job here => by simpa using (busy_state acc tracks fresh here).1
  case queued =>
    intro job here
    simp [(queued_state acc tracks fresh here).1]
  simp

theorem unfinished_count (acc : Accounts p past) (tracks : Tracks p past)
    (fresh : (enteredIn past).Nodup) (none : NoneTaken p) :
    (acceptedIn past).countP (fun job => job.id ∉ recordedIds past) =
      (p.workers.filterMap Phase.running?).length + p.queue.length := by
  rw [count_accepted acc none, List.countP_eq_zero.mpr ?finished, List.countP_eq_length.mpr ?busy,
    List.countP_eq_length.mpr ?queued]
  case finished => exact fun job member => by simpa using finished_recorded_id member
  case busy => exact fun job here => by simpa using (busy_state acc tracks fresh here).2
  case queued => exact fun job here => by simpa using (queued_state acc tracks fresh here).2
  simp

theorem queued_last (acc : Accounts p past) (tracks : Tracks p past)
    (fresh : (enteredIn past).Nodup) (none : NoneTaken p) :
    (acceptedIn past).Pairwise fun earlier later => p.tracker.get? earlier.id = some .queued →
      p.tracker.get? later.id ≠ some .running ∧ later.id ∉ recordedIds past := by
  have begun : ∀ job ∈ takenIn past, p.tracker.get? job.id ≠ some .queued := by
    intro job taken
    rcases List.mem_append.mp ((begun_places acc none).mem_iff.mp taken) with finished | busy
    · exact (finished_state acc tracks fresh (finished_recorded_id finished)).1
    · simp [(busy_state acc tracks fresh busy).1]
  have waiting : ∀ job ∈ p.queue,
      p.tracker.get? job.id ≠ some .running ∧ job.id ∉ recordedIds past := by
    intro job here
    obtain ⟨state, unrecorded⟩ := queued_state acc tracks fresh here
    exact ⟨by simp [state], unrecorded⟩
  rw [acc.queued, List.pairwise_append]
  refine ⟨?_, ?_, fun earlier _ later here _ => waiting later here⟩
  · exact List.pairwise_iff_forall_sublist.mpr fun sub queued =>
      absurd queued (begun _ (sub.subset (by simp)))
  · exact List.pairwise_iff_forall_sublist.mpr fun sub _ => waiting _ (sub.subset (by simp))

end Places
end CommandGateway.Pool
