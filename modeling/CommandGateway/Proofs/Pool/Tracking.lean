import CommandGateway.Proofs.Pool.Accounts
import CommandGateway.Proofs.Pool.Retention

/- The tracker tells the truth. What it says of a job is a function of what has happened, whatever
   the order in which calls and workers took their steps. -/
namespace CommandGateway.Pool

def Submission.trackedId? : Submission → Option Uuid
  | .tracked job => some job.id
  | .refused job _ => some job.id
  | _ => none

def trackedCalls (p : Pool) : List Uuid := p.submissions.filterMap Submission.trackedId?

/-- What is to be told of a job after all that has happened. -/
def told (retained : Nat) (past : List Entry) (calls : List Uuid) (id : Uuid) : Option JobState :=
  match (recordedIn past).find? (·.1.id = id) with
  | some (_, result) =>
    if id ∈ newest retained (recordedIds past) then some (outcome result) else none
  | none =>
    if id ∈ (dispatchedIn past).map Job.id then some .running
    else if id ∈ (acceptedIn past).map Job.id ∨ id ∈ calls then some .queued
    else none

structure Tracks (p : Pool) (past : List Entry) : Prop where
  states : ∀ id, p.tracker.get? id = told p.tracker.retained past (trackedCalls p) id
  finished : p.tracker.finished = newest p.tracker.retained (recordedIds past)
  keys : (p.tracker.jobs.map Prod.fst).Nodup

section Told
variable {retained : Nat} {past : List Entry} {calls : List Uuid} {id : Uuid}

theorem find_recorded_eq_none_iff :
    (recordedIn past).find? (·.1.id = id) = none ↔ id ∉ recordedIds past := by
  simp [recordedIds]

theorem told_unrecorded (pending : id ∉ recordedIds past) :
    told retained past calls id =
      if id ∈ (dispatchedIn past).map Job.id then some .running
      else if id ∈ (acceptedIn past).map Job.id ∨ id ∈ calls then some .queued
      else none := by
  simp only [told, find_recorded_eq_none_iff.mpr pending]

theorem told_recorded {job : Job} {result : Ended Report}
    (nodup : (recordedIds past).Nodup) (recorded : (job, result) ∈ recordedIn past) :
    told retained past calls job.id =
      if job.id ∈ newest retained (recordedIds past) then some (outcome result) else none := by
  have found : (recordedIn past).find? (·.1.id = job.id) = some (job, result) := by
    have distinct : ∀ r ∈ recordedIn past, r.1.id = job.id → r = (job, result) := by
      intro r member same
      exact List.inj_on_of_nodup_map nodup member recorded same
    cases first : (recordedIn past).find? (·.1.id = job.id) with
    | none =>
      have absent := List.find?_eq_none.mp first (job, result) recorded
      simp at absent
    | some r =>
      have same := List.find?_some first
      rw [distinct r (List.mem_of_find?_eq_some first) (by simpa using same)]
  simp only [told, found]

theorem told_congr {past' : List Entry} {calls' : List Uuid}
    (recorded : recordedIn past' = recordedIn past)
    (dispatched : id ∈ (dispatchedIn past').map Job.id ↔ id ∈ (dispatchedIn past).map Job.id)
    (queued : (id ∈ (acceptedIn past').map Job.id ∨ id ∈ calls') ↔
      (id ∈ (acceptedIn past).map Job.id ∨ id ∈ calls)) :
    told retained past' calls' id = told retained past calls id := by
  unfold told recordedIds
  rw [recorded]
  simp only [dispatched, queued]

/-- Recording a result tells it, and what becomes surplus by it is not told any more. -/
theorem told_after_record {job : Job} {result : Ended Report}
    (nodup : (recordedIds past ++ [job.id]).Nodup) :
    told retained (past ++ [.recorded job result]) calls id =
      if id ∈ surplus retained (newest retained (recordedIds past) ++ [job.id]) then none
      else if id = job.id then some (outcome result) else told retained past calls id := by
  have recorded : recordedIn (past ++ [.recorded job result]) =
      recordedIn past ++ [(job, result)] := by simp [recordedIn]
  have ids : recordedIds (past ++ [.recorded job result]) = recordedIds past ++ [job.id] := by
    simp [recordedIds, recorded]
  have kept := mem_newest_append (n := retained) (y := id) nodup
  by_cases same : id = job.id
  · subst same
    have here : (job, result) ∈ recordedIn (past ++ [.recorded job result]) := by simp [recorded]
    rw [told_recorded (ids ▸ nodup) here]
    simp only [ids, kept, List.mem_append, List.mem_singleton, or_true, true_and, if_true]
    split <;> simp_all
  · simp only [List.mem_append, List.mem_singleton, same, or_false] at kept
    by_cases before : id ∈ recordedIds past
    · obtain ⟨⟨other, earlier⟩, member, rfl⟩ := List.mem_map.mp before
      have here : (other, earlier) ∈ recordedIn (past ++ [.recorded job result]) := by
        simp [recorded, member]
      rw [told_recorded (ids ▸ nodup) here, told_recorded nodup.of_append_left member]
      simp only [ids, kept, same, if_false]
      by_cases dropped :
          other.id ∈ surplus retained (newest retained (recordedIds past) ++ [job.id]) <;>
        simp [dropped]
    · have after : id ∉ recordedIds (past ++ [.recorded job result]) := by
        simp [ids, before, same]
      have stays : id ∉ surplus retained (newest retained (recordedIds past) ++ [job.id]) := by
        intro dropped
        have inside := List.mem_of_mem_take dropped
        simp only [List.mem_append, List.mem_singleton, same, or_false] at inside
        exact before (mem_of_mem_newest inside)
      have dispatched : dispatchedIn (past ++ [.recorded job result]) = dispatchedIn past := by
        simp [dispatchedIn]
      have accepted : acceptedIn (past ++ [.recorded job result]) = acceptedIn past := by
        simp [acceptedIn]
      rw [told_unrecorded after, told_unrecorded before, if_neg stays, if_neg same, dispatched,
        accepted]

end Told

section Steps
variable {p q : Pool} {a : Action} {es past : List Entry} {w call : Nat} {job : Job}

theorem waiting_not_recorded (acc : Accounts p past) (fresh : (enteredIn past).Nodup)
    (found : p.workers[w]? = some (.taken job)) : job.id ∉ recordedIds past := by
  intro recorded
  exact waiting_not_dispatched acc fresh found (recorded_id_dispatched acc recorded)

theorem under_way_unknown {id : Uuid} (acc : Accounts p past) (fresh : (enteredIn past).Nodup)
    (inside : id ∈ underWay p) :
    id ∉ recordedIds past ∧ id ∉ (dispatchedIn past).map Job.id ∧
      id ∉ (acceptedIn past).map Job.id := by
  have unaccepted := (under_way_not_answered acc fresh inside).2
  have undispatched : id ∉ (dispatchedIn past).map Job.id :=
    fun dispatched => unaccepted (dispatched_id_accepted acc dispatched)
  refine ⟨?_, undispatched, unaccepted⟩
  exact fun recorded => undispatched (recorded_id_dispatched acc recorded)

theorem tracks_of_same (tracks : Tracks p past) (tracker : q.tracker = p.tracker)
    (calls : trackedCalls q = trackedCalls p) (accepted : acceptedIn es = [])
    (dispatched : dispatchedIn es = []) (recorded : recordedIn es = []) :
    Tracks q (past ++ es) := by
  have accepted' : acceptedIn (past ++ es) = acceptedIn past := by
    simpa [acceptedIn] using accepted
  have dispatched' : dispatchedIn (past ++ es) = dispatchedIn past := by
    simpa [dispatchedIn] using dispatched
  have recorded' : recordedIn (past ++ es) = recordedIn past := by
    simpa [recordedIn] using recorded
  refine ⟨?_, ?_, tracker ▸ tracks.keys⟩
  · intro id
    rw [tracker, calls, tracks.states id]
    unfold told recordedIds
    rw [accepted', dispatched', recorded']
  · rw [tracker, tracks.finished]
    unfold recordedIds
    rw [recorded']

theorem track_tracks (acc : Accounts p past) (fresh : (enteredIn past).Nodup)
    (found : p.submissions[call]? = some (.entered job)) (tracks : Tracks p past) :
    Tracks { p with
      tracker := p.tracker.set job.id .queued
      submissions := p.submissions.set call (.tracked job) } past := by
  have inside : job.id ∈ underWay p :=
    List.mem_filterMap.mpr ⟨_, List.mem_of_getElem? found, rfl⟩
  obtain ⟨unrecorded, undispatched, unaccepted⟩ := under_way_unknown acc fresh inside
  have calls : ∀ id, id ∈ (p.submissions.set call (.tracked job)).filterMap Submission.trackedId? ↔
      id = job.id ∨ id ∈ trackedCalls p := fun id => mem_comes_in found rfl rfl
  refine ⟨?_, ?_, ?_⟩
  · intro id
    rw [get_set_pending rfl]
    split
    · rename_i same
      subst same
      have tracked := (calls job.id).mpr (Or.inl rfl)
      simp [told_unrecorded unrecorded, undispatched, trackedCalls, tracked]
    · rename_i other
      rw [tracks.states id, set_pending rfl]
      refine told_congr rfl Iff.rfl ?_
      simp [trackedCalls, calls id, other]
  · rw [set_pending rfl]
    exact tracks.finished
  · rw [set_pending rfl]
    exact keys_cons_without_nodup tracks.keys

theorem accept_tracks (found : p.submissions[call]? = some (.tracked job))
    (tracks : Tracks p past) :
    Tracks { p with
      queue := p.queue ++ [job]
      tickets := (job.id, .pending) :: p.tickets
      submissions := p.submissions.set call (.returned (.ok ())) } (past ++ [.accepted job]) := by
  have calls : ∀ id, id ∈ trackedCalls p ↔ id = job.id ∨
      id ∈ (p.submissions.set call (.returned (.ok ()))).filterMap Submission.trackedId? :=
    fun id => mem_goes_out found rfl rfl
  have recorded : recordedIn (past ++ [.accepted job]) = recordedIn past := by simp [recordedIn]
  have accepted : acceptedIn (past ++ [.accepted job]) = acceptedIn past ++ [job] := by
    simp [acceptedIn]
  refine ⟨?_, ?_, tracks.keys⟩
  · intro id
    rw [tracks.states id]
    symm
    refine told_congr recorded (by simp [dispatchedIn]) ?_
    rw [accepted, calls id]
    simp only [trackedCalls, List.map_append, List.mem_append, List.map_cons, List.map_nil,
      List.mem_singleton, or_assoc]
  · unfold recordedIds
    rw [recorded]
    exact tracks.finished

theorem refuse_tracks {e : ExecutorError} (found : p.submissions[call]? = some (.tracked job))
    (tracks : Tracks p past) :
    Tracks { p with submissions := p.submissions.set call (.refused job e) } (past ++ []) := by
  have same : (p.submissions.set call (.refused job e)).filterMap Submission.trackedId? =
      p.submissions.filterMap Submission.trackedId? := filter_map_set_same found rfl
  exact tracks_of_same tracks rfl same rfl rfl rfl

theorem tracked_under_way {id : Uuid} (tracked : id ∈ trackedCalls p) : id ∈ underWay p := by
  obtain ⟨s, member, known⟩ := List.mem_filterMap.mp tracked
  refine List.mem_filterMap.mpr ⟨s, member, ?_⟩
  cases s <;> simp_all [Submission.trackedId?, Submission.id?]

theorem retract_tracks {e : ExecutorError} (acc : Accounts p past)
    (fresh : (enteredIn past).Nodup) (found : p.submissions[call]? = some (.refused job e))
    (tracks : Tracks p past) :
    Tracks { p with
      tracker := p.tracker.forget job.id
      submissions := p.submissions.set call (.returned (.error e)) } past := by
  have inside : job.id ∈ underWay p :=
    List.mem_filterMap.mpr ⟨_, List.mem_of_getElem? found, rfl⟩
  obtain ⟨unrecorded, undispatched, unaccepted⟩ := under_way_unknown acc fresh inside
  generalize after : p.submissions.set call (.returned (.error e)) = submissions
  have calls : ∀ id, id ∈ trackedCalls p ↔
      id = job.id ∨ id ∈ submissions.filterMap Submission.trackedId? :=
    fun id => after ▸ mem_goes_out found rfl rfl
  -- the id has left the calls under way, where it stood only once
  have untracked : job.id ∉ submissions.filterMap Submission.trackedId? := by
    intro tracked
    have left : job.id ∈ underWay { p with submissions := submissions } :=
      tracked_under_way tracked
    have once : (underWay p).Nodup := (calls_nodup acc fresh).of_append_right
    have parts := filter_map_set (f := Submission.id?) (b := .returned (.error e)) found
    simp only [Submission.id?, Option.toList_some, Option.toList_none, List.nil_append,
      List.singleton_append, after] at parts
    exact (List.nodup_cons.mp (parts.nodup_iff.mpr once)).1 left
  refine ⟨?_, tracks.finished, keys_without_nodup tracks.keys⟩
  intro id
  rw [get_forget]
  split
  · rename_i same
    subst same
    rw [told_unrecorded unrecorded, if_neg undispatched,
      if_neg (by simp [unaccepted, untracked, trackedCalls])]
  · rename_i other
    rw [tracks.states id]
    refine (told_congr rfl Iff.rfl ?_).symm
    rw [calls id, trackedCalls]
    simp only [other, false_or]

theorem mark_tracks (acc : Accounts p past) (fresh : (enteredIn past).Nodup)
    (found : p.workers[w]? = some (.taken job)) (tracks : Tracks p past) :
    Tracks { p with
      tracker := p.tracker.set job.id .running
      workers := p.workers.set w (.running job) } (past ++ [.dispatched job]) := by
  have unrecorded := waiting_not_recorded acc fresh found
  have recorded : recordedIn (past ++ [.dispatched job]) = recordedIn past := by simp [recordedIn]
  have dispatched : dispatchedIn (past ++ [.dispatched job]) = dispatchedIn past ++ [job] := by
    simp [dispatchedIn]
  have accepted : acceptedIn (past ++ [.dispatched job]) = acceptedIn past := by
    simp [acceptedIn]
  have unrecorded' : job.id ∉ recordedIds (past ++ [.dispatched job]) := by
    rwa [recordedIds, recorded]
  refine ⟨?_, ?_, ?_⟩
  · intro id
    rw [get_set_pending rfl]
    split
    · rename_i same
      subst same
      rw [told_unrecorded unrecorded', dispatched, if_pos (by simp)]
    · rename_i other
      rw [tracks.states id, set_pending rfl]
      refine (told_congr recorded ?_ (by rw [accepted]; rfl)).symm
      simp [dispatched, other]
  · rw [set_pending rfl, recordedIds, recorded]
    exact tracks.finished
  · rw [set_pending rfl]
    exact keys_cons_without_nodup tracks.keys

theorem record_tracks {result : Ended Report} (acc : Accounts p past)
    (fresh : (enteredIn past).Nodup) (found : p.workers[w]? = some (.ended job result))
    (tracks : Tracks p past) :
    Tracks { p with
      tracker := p.tracker.set job.id (outcome result)
      workers := p.workers.set w (.recorded job result) } (past ++ [.recorded job result]) := by
  have unrecorded := running_not_recorded acc fresh found rfl
  have finished : (outcome result).isFinished = true := by cases result <;> rfl
  have ids : recordedIds (past ++ [.recorded job result]) = recordedIds past ++ [job.id] := by
    simp [recordedIds, recordedIn]
  have nodup : (recordedIds past ++ [job.id]).Nodup :=
    List.nodup_append.mpr ⟨recorded_nodup acc fresh, List.nodup_singleton _,
      fun a member b single same => unrecorded (by simp_all)⟩
  refine ⟨?_, ?_, ?_⟩
  · intro id
    rw [get_set_finished finished, tracks.finished, tracks.states id, set_finished finished]
    exact (told_after_record nodup).symm
  · rw [set_finished finished, ids, tracks.finished, newest_newest_append]
  · rw [set_finished finished]
    exact (keys_cons_without_nodup tracks.keys).sublist (List.filter_sublist.map _)

theorem enter_tracks {s : Submission} (entered : s.trackedId? = none) (tracks : Tracks p past)
    (accepted : acceptedIn es = []) (dispatched : dispatchedIn es = [])
    (recorded : recordedIn es = []) :
    Tracks { p with submissions := p.submissions ++ [s] } (past ++ es) := by
  have same : (p.submissions ++ [s]).filterMap Submission.trackedId? =
      p.submissions.filterMap Submission.trackedId? := by simp [entered]
  exact tracks_of_same tracks rfl same accepted dispatched recorded

theorem step_tracks (step : Step p a es q) (acc : Accounts p past) (fresh : (enteredIn past).Nodup)
    (tracks : Tracks p past) : Tracks q (past ++ es) := by
  cases step with
  | enterOpen | enterClosed => exact enter_tracks rfl tracks rfl rfl rfl
  | track call job found =>
    rw [List.append_nil]
    exact track_tracks acc fresh found tracks
  | accept call job found admitted => exact accept_tracks found tracks
  | refuse call job e found full => exact refuse_tracks found tracks
  | retract call job e found =>
    exact tracks_of_same (retract_tracks acc fresh found tracks) rfl rfl rfl rfl rfl
  | mark w job found => exact mark_tracks acc fresh found tracks
  | record w job result found => exact record_tracks acc fresh found tracks
  | _ => exact tracks_of_same tracks rfl rfl rfl rfl rfl

end Steps

theorem start_tracks (workers capacity retained : Nat) :
    Tracks (start workers capacity retained) [] := by
  refine ⟨?_, ?_, ?_⟩
  · intro id
    simp [start, Tracker.empty, Tracker.get?, stateOf, told, recordedIn, dispatchedIn, acceptedIn,
      trackedCalls]
  · simp [start, Tracker.empty, newest, recordedIds, recordedIn]
  · simp [start, Tracker.empty]

theorem run_tracks {p : Pool} {acts : List Action} {workers capacity retained : Nat}
    (run : (start workers capacity retained).run? acts = some p) (fresh : (issued acts).Nodup) :
    Tracks p (chronicle (start workers capacity retained) acts) :=
  fresh_run_keeps step_tracks run fresh (start_tracks workers capacity retained)

end CommandGateway.Pool
