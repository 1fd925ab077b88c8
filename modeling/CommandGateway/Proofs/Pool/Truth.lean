import CommandGateway.Proofs.Pool.Tracking

/- How much a pool holds, and what its tracker can be relied on for in every state of every run. -/
namespace CommandGateway.Pool

structure Dimensions (workers capacity retained : Nat) (p : Pool) : Prop where
  limit : p.capacity = capacity
  count : p.workers.length = workers
  kept : p.tracker.retained = retained
  room : p.queue.length ≤ capacity

theorem set_retained (t : Tracker) (id : Uuid) (state : JobState) :
    (t.set id state).retained = t.retained := by
  cases finished : state.isFinished with
  | false => rw [set_pending finished]
  | true => rw [set_finished finished]

theorem admitted_room {p : Pool} (admitted : p.admission = .ok ()) :
    p.queue.length < p.capacity := by
  unfold admission at admitted
  split at admitted
  · cases admitted
  · split at admitted
    · assumption
    · cases admitted

theorem step_dimensions {workers capacity retained : Nat} {p q : Pool} {a : Action}
    {es : List Entry} (step : Step p a es q) (dims : Dimensions workers capacity retained p) :
    Dimensions workers capacity retained q := by
  obtain ⟨limit, count, kept, room⟩ := dims
  cases step with
  | accept call job found admitted =>
    have free := admitted_room admitted
    refine ⟨limit, count, kept, ?_⟩
    simp only [List.length_append, List.length_singleton]
    omega
  | take w job rest idle head =>
    refine ⟨limit, by simpa using count, kept, ?_⟩
    simp only [head, List.length_cons] at room
    exact Nat.le_of_succ_le room
  | track | mark | record =>
    exact ⟨limit, by simpa using count, by simpa [set_retained] using kept, room⟩
  | _ => exact ⟨limit, by simpa using count, kept, room⟩

theorem run_dimensions {p : Pool} {acts : List Action} {workers capacity retained : Nat}
    (run : (start workers capacity retained).run? acts = some p) :
    Dimensions (max workers 1) (max capacity 1) retained p := by
  have initial : Dimensions (max workers 1) (max capacity 1) retained
      (start workers capacity retained) := ⟨rfl, by simp [start], rfl, by simp [start]⟩
  exact run_keeps_state step_dimensions run initial

section Size
variable {p : Pool} {past : List Entry} {id : Uuid}

def pendingIds (p : Pool) : List Uuid :=
  p.queue.map Job.id ++ ((p.workers.filterMap Phase.waiting?).map Job.id ++
    (p.workers.filterMap Phase.running?).map Job.id)

theorem busy_length_le (workers : List Phase) :
    (workers.filterMap Phase.waiting?).length + (workers.filterMap Phase.running?).length ≤
      workers.length := by
  induction workers with
  | nil => simp
  | cons phase rest ih =>
    cases phase <;> simp [List.filterMap_cons, Phase.waiting?, Phase.running?] <;> omega

theorem unrecorded_pending (acc : Accounts p past) (unrecorded : id ∉ recordedIds past)
    (accepted : id ∈ (acceptedIn past).map Job.id) : id ∈ pendingIds p := by
  have running : id ∈ (dispatchedIn past).map Job.id →
      id ∈ (p.workers.filterMap Phase.running?).map Job.id := by
    intro dispatched
    have place := (acc.running.map Job.id).mem_iff.mp dispatched
    rw [List.map_append, List.map_map, List.mem_append] at place
    exact place.resolve_left unrecorded
  have queued := accepted
  rw [acc.queued, List.map_append, List.mem_append] at queued
  rcases queued with taken | queued
  · have place := (acc.waiting.map Job.id).mem_iff.mp taken
    rw [List.map_append, List.mem_append] at place
    rcases place with dispatched | waiting
    · exact List.mem_append_right _ (List.mem_append_right _ (running dispatched))
    · exact List.mem_append_right _ (List.mem_append_left _ waiting)
  · exact List.mem_append_left _ queued

theorem key_accounted (acc : Accounts p past) (tracks : Tracks p past)
    (fresh : (enteredIn past).Nodup) (key : id ∈ p.tracker.jobs.map Prod.fst) :
    id ∈ underWay p ++ (pendingIds p ++ p.tracker.finished) := by
  have known : told p.tracker.retained past (trackedCalls p) id ≠ none := by
    rw [← tracks.states id]
    exact fun unknown => state_of_eq_none_iff.mp unknown key
  by_cases recorded : id ∈ recordedIds past
  · obtain ⟨⟨job, result⟩, member, rfl⟩ := List.mem_map.mp recorded
    have kept : job.id ∈ newest p.tracker.retained (recordedIds past) := by
      rw [told_recorded (recorded_nodup acc fresh) member] at known
      by_contra dropped
      exact known (if_neg dropped)
    rw [← tracks.finished] at kept
    exact List.mem_append_right _ (List.mem_append_right _ kept)
  · rw [told_unrecorded recorded] at known
    have pending := unrecorded_pending acc recorded
    by_cases accepted : id ∈ (acceptedIn past).map Job.id
    · exact List.mem_append_right _ (List.mem_append_left _ (pending accepted))
    · have call : id ∈ trackedCalls p := by
        by_contra untracked
        rw [if_neg (fun member => accepted (dispatched_id_accepted acc member)),
          if_neg (by simp_all)] at known
        exact known rfl
      exact List.mem_append_left _ (tracked_under_way call)

theorem jobs_length_le {workers capacity retained : Nat} (acc : Accounts p past)
    (tracks : Tracks p past) (fresh : (enteredIn past).Nodup)
    (dims : Dimensions workers capacity retained p) :
    p.tracker.jobs.length ≤ (underWay p).length + (capacity + workers + retained) := by
  have inside : p.tracker.jobs.map Prod.fst ⊆
      underWay p ++ (pendingIds p ++ p.tracker.finished) := fun _ =>
      key_accounted acc tracks fresh
  have fits := (List.subperm_of_subset tracks.keys inside).length_le
  have busy := busy_length_le p.workers
  have kept : p.tracker.finished.length ≤ retained := by
    rw [tracks.finished, ← dims.kept]
    exact newest_length_le
  have room := dims.room
  have count := dims.count
  simp only [pendingIds, List.length_append, List.length_map] at fits
  omega

end Size

/-- What the tracker says, and keeps, when the calls with these ids have led to this story. -/
structure Truthful (p : Pool) (retained : Nat) (ids : List Uuid) (story : List Entry) : Prop where
  unissued : ∀ id, id ∉ ids → p.tracker.get? id = none
  refused : ∀ id ∈ refusedIn story, p.tracker.get? id = none
  queued : ∀ job ∈ acceptedIn story, job.id ∉ (dispatchedIn story).map Job.id →
    p.tracker.get? job.id = some .queued
  running : ∀ job ∈ dispatchedIn story, job.id ∉ recordedIds story →
    p.tracker.get? job.id = some .running
  recorded : ∀ before job result after, story = before ++ .recorded job result :: after →
    p.tracker.get? job.id =
      if (recordedIds after).length < retained then some (outcome result) else none
  finished : p.tracker.finished = newest retained (recordedIds story)
  once : p.tracker.finished.Nodup
  few : p.tracker.finished.length ≤ retained
  kept : ∀ id ∈ p.tracker.finished, ∃ state, (id, state) ∈ p.tracker.jobs ∧ state.isFinished = true

section Truth
variable {p : Pool} {retained : Nat} {past : List Entry} {id : Uuid}

theorem mem_of_state {jobs : List (Uuid × JobState)} {state : JobState}
    (found : stateOf id jobs = some state) : (id, state) ∈ jobs := by
  induction jobs with
  | nil => simp [stateOf] at found
  | cons job rest ih =>
    obtain ⟨name, held⟩ := job
    unfold stateOf at found
    split at found
    · rename_i same
      cases found
      exact same ▸ List.mem_cons_self
    · exact List.mem_cons_of_mem _ (ih found)

theorem unaccepted_unknown (acc : Accounts p past) (tracks : Tracks p past)
    (elsewhere : id ∉ underWay p) (unaccepted : id ∉ (acceptedIn past).map Job.id) :
    p.tracker.get? id = none := by
  have undispatched : id ∉ (dispatchedIn past).map Job.id :=
    fun dispatched => unaccepted (dispatched_id_accepted acc dispatched)
  have unrecorded : id ∉ recordedIds past :=
    fun recorded => undispatched (recorded_id_dispatched acc recorded)
  have untracked : id ∉ trackedCalls p := fun tracked => elsewhere (tracked_under_way tracked)
  rw [tracks.states, told_unrecorded unrecorded, if_neg undispatched,
    if_neg (by simp [unaccepted, untracked])]

theorem recorded_told {before after : List Entry} {job : Job} {result : Ended Report}
    (tracks : Tracks p past) (nodup : (recordedIds past).Nodup)
    (story : past = before ++ .recorded job result :: after) :
    p.tracker.get? job.id =
      if (recordedIds after).length < p.tracker.retained then some (outcome result) else none := by
  have ids : recordedIds past = recordedIds before ++ job.id :: recordedIds after := by
    simp [story, recordedIds, recordedIn]
  have member : (job, result) ∈ recordedIn past := by
    simp [story, recordedIn]
  have newer := mem_newest_middle (n := p.tracker.retained) (ids ▸ nodup)
  rw [tracks.states, told_recorded nodup member]
  simp only [ids, newer]

theorem finished_kept (tracks : Tracks p past) (nodup : (recordedIds past).Nodup)
    (member : id ∈ p.tracker.finished) :
    ∃ state, (id, state) ∈ p.tracker.jobs ∧ state.isFinished = true := by
  rw [tracks.finished] at member
  obtain ⟨⟨job, result⟩, recorded, rfl⟩ := List.mem_map.mp (mem_of_mem_newest member)
  refine ⟨outcome result, mem_of_state ?_, by cases result <;> rfl⟩
  have state := tracks.states job.id
  rwa [told_recorded nodup recorded, if_pos member] at state

theorem finished_recorded (tracks : Tracks p past) (nodup : (recordedIds past).Nodup)
    {state : JobState} (known : p.tracker.get? id = some state) (finished : state.isFinished) :
    ∃ job result, (job, result) ∈ recordedIn past ∧ job.id = id ∧ state = outcome result := by
  rw [tracks.states] at known
  by_cases recorded : id ∈ recordedIds past
  · obtain ⟨⟨job, result⟩, member, rfl⟩ := List.mem_map.mp recorded
    rw [told_recorded nodup member] at known
    split at known
    · exact ⟨job, result, member, rfl, (Option.some.inj known).symm⟩
    · cases known
  · rw [told_unrecorded recorded] at known
    split at known
    · cases known
      cases finished
    · split at known <;> cases known
      cases finished

theorem truthful (acc : Accounts p past) (tracks : Tracks p past)
    (fresh : (enteredIn past).Nodup) : Truthful p p.tracker.retained (enteredIn past) past := by
  have nodup := recorded_nodup acc fresh
  constructor
  case unissued =>
    intro id unissued
    have nowhere : id ∉ (refusedIn past ++ (acceptedIn past).map Job.id) ++ underWay p :=
      fun member => unissued (acc.calls.mem_iff.mpr member)
    simp only [List.mem_append, not_or] at nowhere
    exact unaccepted_unknown acc tracks nowhere.2 nowhere.1.2
  case refused =>
    intro id refused
    have elsewhere : id ∉ underWay p :=
      fun call => (under_way_not_answered acc fresh call).1 refused
    exact unaccepted_unknown acc tracks elsewhere (refused_not_accepted acc fresh refused)
  case queued =>
    intro job accepted undispatched
    have unrecorded : job.id ∉ recordedIds past :=
      fun recorded => undispatched (recorded_id_dispatched acc recorded)
    rw [tracks.states, told_unrecorded unrecorded, if_neg undispatched,
      if_pos (Or.inl (List.mem_map_of_mem accepted))]
  case running =>
    intro job dispatched unrecorded
    rw [tracks.states, told_unrecorded unrecorded, if_pos (List.mem_map_of_mem dispatched)]
  case recorded =>
    intro before job result after story
    exact recorded_told tracks nodup story
  case finished => exact tracks.finished
  case once => exact tracks.finished ▸ newest_nodup nodup
  case few => exact tracks.finished ▸ newest_length_le
  case kept => exact fun id => finished_kept tracks nodup

end Truth

theorem tracker_tells_truth {workers capacity retained : Nat} {acts : List Action} {p : Pool}
    (run : (start workers capacity retained).run? acts = some p) (fresh : (issued acts).Nodup) :
    Truthful p retained (issued acts) (chronicle (start workers capacity retained) acts) ∧
    (underWay p = [] →
      p.tracker.jobs.length ≤ max capacity 1 + max workers 1 + retained) := by
  have acc := run_accounts run
  have tracks := run_tracks run fresh
  have dims := run_dimensions run
  have entered := entered_chronicle run
  constructor
  · have truth := truthful acc tracks (entered ▸ fresh)
    rwa [dims.kept, entered] at truth
  · intro quiet
    have size := jobs_length_le acc tracks (entered ▸ fresh) dims
    simpa [quiet] using size

def untagged : Batch := ⟨[⟨.unknown none, []⟩], by simp⟩

/-- Three calls for one worker with room for one batch: the third is refused, and the result of the
    second job pushes that of the first one out. -/
def threeCalls : List Action :=
  [.enter (Uuid.ofNat 1) untagged, .track 0, .send 0, .take 0,
    .enter (Uuid.ofNat 2) untagged, .track 1, .send 1,
    .enter (Uuid.ofNat 3) untagged, .track 2, .send 2, .retract 2,
    .mark 0, .finish 0 (.panicked .other), .record 0, .deliver 0,
    .take 0, .mark 0, .finish 0 (.panicked (.text "over")), .record 0]

theorem tracker_tells_truth_of_three : ∃ p, (start 1 1 1).run? threeCalls = some p ∧
    Truthful p 1 (issued threeCalls) (chronicle (start 1 1 1) threeCalls) ∧
    p.tracker.finished = [Uuid.ofNat 2] ∧ p.tracker.jobs.length ≤ 3 := by
  have run : (start 1 1 1).run? threeCalls = some _ := rfl
  have truth := tracker_tells_truth run (by decide)
  exact ⟨_, run, truth.1, by decide, truth.2 rfl⟩

end CommandGateway.Pool
