import CommandGateway.Proofs.Pool.Shutdown

/- A whole call that brings a batch, with nothing in between. When the queue is closed or has no
   room it leaves no trace: the job is tracked for a moment and then forgotten. -/
namespace CommandGateway.Pool

def played (p : Pool) (action : Action) : Pool := (p.act? action).getD p

/-- A whole call that brings a batch. -/
def submitted (p : Pool) (id : Uuid) (batch : Batch) : Pool :=
  (submission p.submissions.length id batch).foldl played p

def calling (p : Pool) (s : Submission) : Pool := { p with submissions := p.submissions ++ [s] }

section Calls
variable {p : Pool} {id : Uuid} {batch : Batch} {job : Job} {s : Submission} {e : ExecutorError}

theorem calling_found : (calling p s).submissions[p.submissions.length]? = some s := by
  simp [calling]

theorem calling_set (s' : Submission) :
    (calling p s).setSubmission p.submissions.length s' = calling p s' := by
  simp [calling, setSubmission]

theorem calling_answer (p : Pool) (result : Except ExecutorError Unit) :
    (calling p (.returned result)).answerTo p.submissions.length = result := by
  simp only [answerTo, calling_found]

theorem played_track :
    played (calling p (.entered job)) (.track p.submissions.length) =
      calling { p with tracker := p.tracker.set job.id .queued } (.tracked job) := by
  simp only [played, Pool.act?, track?, calling_found]
  exact calling_set (p := { p with tracker := p.tracker.set job.id .queued }) _

theorem played_send_admitted (job : Job) (room : p.admission = .ok ()) :
    played (calling p (.tracked job)) (.send p.submissions.length) =
      calling { p with queue := p.queue ++ [job], tickets := (job.id, .pending) :: p.tickets }
        (.returned (.ok ())) := by
  have same : (calling p (.tracked job)).admission = .ok () := room
  simp only [played, Pool.act?, send?, calling_found, same]
  exact calling_set (p := { p with
    queue := p.queue ++ [job], tickets := (job.id, .pending) :: p.tickets }) _

theorem played_send_refused (job : Job) (full : p.admission = .error e) :
    played (calling p (.tracked job)) (.send p.submissions.length) =
      calling p (.refused job e) := by
  have same : (calling p (.tracked job)).admission = .error e := full
  simp only [played, Pool.act?, send?, calling_found, same]
  exact calling_set _

theorem played_retract (p : Pool) (job : Job) (e : ExecutorError) :
    played (calling p (.refused job e)) (.retract p.submissions.length) =
      calling { p with tracker := p.tracker.forget job.id } (.returned (.error e)) := by
  simp only [played, Pool.act?, retract?, calling_found]
  exact calling_set (p := { p with tracker := p.tracker.forget job.id }) _

theorem played_returned {result : Except ExecutorError Unit} {action : Action}
    (further : action ∈ [.track p.submissions.length, .send p.submissions.length,
      Action.retract p.submissions.length]) :
    played (calling p (.returned result)) action = calling p (.returned result) := by
  simp only [List.mem_cons, List.not_mem_nil, or_false] at further
  rcases further with rfl | rfl | rfl
  · simp only [played, Pool.act?, track?, calling_found, Option.getD_none]
  · simp only [played, Pool.act?, send?, calling_found, Option.getD_none]
  · simp only [played, Pool.act?, retract?, calling_found, Option.getD_none]

theorem submitted_closed (shut : p.accepting = false) :
    submitted p id batch = calling p (.returned (.error .closed)) := by
  have entered : played p (.enter id batch) = calling p (.returned (.error .closed)) := by
    simp [played, Pool.act?, enter, shut, calling]
  simp only [submitted, submission, List.foldl_cons, List.foldl_nil, entered]
  rw [played_returned (by simp), played_returned (by simp), played_returned (by simp)]

theorem submitted_tracked (accepting : p.accepting = true) :
    played (played p (.enter id batch)) (.track p.submissions.length) =
      calling { p with tracker := p.tracker.set id .queued } (.tracked ⟨id, batch⟩) := by
  have entered : played p (.enter id batch) = calling p (.entered ⟨id, batch⟩) := by
    simp [played, Pool.act?, enter, accepting, calling]
  rw [entered, played_track]

theorem forget_set (unknown : p.tracker.get? id = none) :
    (p.tracker.set id .queued).forget id = p.tracker := by
  have absent : id ∉ p.tracker.jobs.map Prod.fst := state_of_eq_none_iff.mp unknown
  have kept : without id p.tracker.jobs = p.tracker.jobs := by
    refine List.filter_eq_self.mpr fun job member => ?_
    have apart : job.1 ≠ id := fun same => absent (same ▸ List.mem_map_of_mem member)
    simpa using apart
  have again : without id ((id, JobState.queued) :: without id p.tracker.jobs) =
      p.tracker.jobs := by
    rw [kept, without, List.filter_cons_of_neg (by simp)]
    exact kept
  rw [set_pending rfl, Tracker.forget, again]

theorem submitted_refused (accepting : p.accepting = true) (full : p.admission = .error e)
    (unknown : p.tracker.get? id = none) :
    submitted p id batch = calling p (.returned (.error e)) := by
  -- between its first step and its last the call is tracked, as the pool of the second step says
  let q : Pool := { p with tracker := p.tracker.set id .queued }
  have send := played_send_refused (p := q) ⟨id, batch⟩ full
  have retract := played_retract q ⟨id, batch⟩ e
  simp only [submitted, submission, List.foldl_cons, List.foldl_nil, submitted_tracked accepting]
  refine (congrArg (played · (.retract p.submissions.length)) send).trans (retract.trans ?_)
  simp only [q, forget_set unknown]

theorem submitted_admitted (accepting : p.accepting = true) (room : p.admission = .ok ()) :
    submitted p id batch =
      calling { p with
        tracker := p.tracker.set id .queued
        queue := p.queue ++ [⟨id, batch⟩]
        tickets := (id, .pending) :: p.tickets } (.returned (.ok ())) := by
  let q : Pool := { p with tracker := p.tracker.set id .queued }
  have send := played_send_admitted (p := q) ⟨id, batch⟩ room
  simp only [submitted, submission, List.foldl_cons, List.foldl_nil, submitted_tracked accepting]
  exact (congrArg (played · (.retract p.submissions.length)) send).trans
    (played_returned (by simp [q]))

end Calls

/-- A pool to which anything has happened by which no call got an id that another had. -/
structure Sound (used : List Uuid) (p : Pool) : Prop where
  story : ∃ past, Accounts p past ∧ Tracks p past ∧ (enteredIn past).Nodup ∧
    ∀ id ∈ enteredIn past, id ∈ used
  early : NoneLeftEarly p
  staffed : p.accepting = true → p.workers ≠ []

theorem start_sound (workers capacity retained : Nat) :
    Sound [] (start workers capacity retained) where
  story := ⟨[], start_accounts .., start_tracks .., List.nodup_nil, nofun⟩
  early := start_none_left_early workers capacity retained
  staffed := by simp [start]

theorem absent_sound : Sound [] absent where
  story := by
    refine ⟨[], ?_, ?_, List.nodup_nil, nofun⟩
    · constructor <;> simp [absent, underWay, enteredIn, refusedIn, acceptedIn, takenIn,
        dispatchedIn, recordedIn, deliveredIn]
    · refine ⟨fun id => ?_, ?_, List.nodup_nil⟩
      · simp [absent, Tracker.empty, Tracker.get?, stateOf, told, recordedIn, dispatchedIn,
          acceptedIn, trackedCalls]
      · simp [absent, Tracker.empty, newest, recordedIds, recordedIn]
  early := by simp [NoneLeftEarly, absent]
  staffed := nofun

/-- What a whole call comes to. -/
inductive Submitted (p : Pool) (id : Uuid) (batch : Batch) :
    Except ExecutorError Unit → Pool → Prop
  | closed (shut : p.accepting = false) :
      Submitted p id batch (.error .closed) (calling p (.returned (.error .closed)))
  | full (accepting : p.accepting = true) (full : ¬ p.queue.length < p.capacity) :
      Submitted p id batch (.error .queueFull) (calling p (.returned (.error .queueFull)))
  | admitted (accepting : p.accepting = true) (room : p.queue.length < p.capacity) :
      Submitted p id batch (.ok ())
        (calling { p with
          tracker := p.tracker.set id .queued
          queue := p.queue ++ [⟨id, batch⟩]
          tickets := (id, .pending) :: p.tickets } (.returned (.ok ())))

section Soundness
variable {p q : Pool} {used : List Uuid} {a : Action} {es : List Entry} {id : Uuid}
  {batch : Batch}

theorem step_workers (step : Step p a es q) : q.workers.length = p.workers.length := by
  cases step <;> simp

structure Story (used : List Uuid) (p : Pool) (past : List Entry) : Prop where
  acc : Accounts p past
  tracks : Tracks p past
  once : (enteredIn past).Nodup
  known : ∀ id ∈ enteredIn past, id ∈ used

theorem step_story {past : List Entry} (step : Step p a es q) (story : Story used p past)
    (new : ∀ id ∈ issued [a], id ∉ used) : Story (issued [a] ++ used) q (past ++ es) := by
  obtain ⟨acc, tracks, once, known⟩ := story
  have entered : enteredIn (past ++ es) = enteredIn past ++ issued [a] := by
    rw [← step_entered step, enteredIn, List.filterMap_append, enteredIn, enteredIn]
  refine ⟨step_accounts step acc, step_tracks step acc once tracks, ?_, ?_⟩
  · rw [entered, List.nodup_append]
    refine ⟨once, by cases a <;> simp [issued], fun id old id' now same => ?_⟩
    exact new id' now (same ▸ known id old)
  · intro id member
    rw [entered, List.mem_append] at member
    exact List.mem_append.mpr (member.symm.imp_right (known id))

theorem step_sound (step : Step p a es q) (sound : Sound used p)
    (new : ∀ id ∈ issued [a], id ∉ used) : Sound (issued [a] ++ used) q := by
  obtain ⟨past, acc, tracks, once, known⟩ := sound.story
  have story := step_story step ⟨acc, tracks, once, known⟩ new
  refine ⟨⟨past ++ es, story.acc, story.tracks, story.once, story.known⟩,
    step_none_left_early step sound.early, ?_⟩
  intro accepting
  have before : p.accepting = true := by
    cases step <;> first | exact accepting | cases accepting
  have staffed := List.length_pos_iff.mpr (sound.staffed before)
  exact List.length_pos_iff.mp (step_workers step ▸ staffed)

theorem sound_mono (more : List Uuid) (sound : Sound used p) : Sound (more ++ used) p := by
  obtain ⟨past, acc, tracks, once, known⟩ := sound.story
  exact ⟨⟨past, acc, tracks, once, fun id member => List.mem_append_right _ (known id member)⟩,
    sound.early, sound.staffed⟩

theorem played_sound (sound : Sound used p) (new : ∀ id ∈ issued [a], id ∉ used) :
    Sound (issued [a] ++ used) (played p a) := by
  cases acted : p.act? a with
  | none =>
    rw [played, acted]
    exact sound_mono _ sound
  | some q =>
    rw [played, acted]
    exact step_sound (act_step acted) sound new

theorem submitted_keeps {P : List Uuid → Pool → Prop}
    (keeps : ∀ {used q a}, a ∈ submission p.submissions.length id batch → P used q →
      (∀ other ∈ issued [a], other ∉ used) → P (issued [a] ++ used) (played q a))
    (holds : P used p) (new : id ∉ used) : P (id :: used) (submitted p id batch) := by
  have entered := keeps (a := .enter id batch) (by simp [submission]) holds
    (by simpa [issued] using new)
  have tracked := keeps (a := .track p.submissions.length) (by simp [submission]) entered
    (by simp [issued])
  have sent := keeps (a := .send p.submissions.length) (by simp [submission]) tracked
    (by simp [issued])
  exact keeps (a := .retract p.submissions.length) (by simp [submission]) sent (by simp [issued])

theorem submitted_sound (sound : Sound used p) (new : id ∉ used) :
    Sound (id :: used) (submitted p id batch) :=
  submitted_keeps (fun _ => played_sound) sound new

theorem new_unknown (sound : Sound used p) (new : id ∉ used) : p.tracker.get? id = none := by
  obtain ⟨past, acc, tracks, once, known⟩ := sound.story
  exact (truthful acc tracks once).unissued id fun member => new (known id member)

theorem open_admission (early : NoneLeftEarly p) (staffed : p.workers ≠ [])
    (opened : p.isOpen = true) :
    p.admission = if p.queue.length < p.capacity then .ok () else .error .queueFull := by
  have received : (p.workers.all fun phase => isGone (some phase)) = false := by
    obtain ⟨phase, rest, workers⟩ := List.exists_cons_of_ne_nil staffed
    rw [List.all_eq_false]
    refine ⟨phase, by simp [workers], fun gone => ?_⟩
    obtain ⟨shut, -⟩ := early 0 (by simpa [workers] using is_gone_iff.mp gone)
    simp [opened] at shut
  rw [admission, received]
  rfl

theorem accepting_admission (sound : Sound used p) (accepting : p.accepting = true) :
    p.admission = if p.queue.length < p.capacity then .ok () else .error .queueFull :=
  open_admission sound.early (sound.staffed accepting) (by simp [isOpen, accepting])

theorem submitted_cases (sound : Sound used p) (new : id ∉ used) :
    Submitted p id batch ((submitted p id batch).answerTo p.submissions.length)
      (submitted p id batch) := by
  cases accepting : p.accepting with
  | false =>
    rw [submitted_closed accepting, calling_answer]
    exact .closed accepting
  | true =>
    have admission := accepting_admission sound accepting
    by_cases room : p.queue.length < p.capacity
    · rw [if_pos room] at admission
      rw [submitted_admitted accepting admission]
      have answer := calling_answer { p with
        tracker := p.tracker.set id .queued
        queue := p.queue ++ [⟨id, batch⟩]
        tickets := (id, .pending) :: p.tickets } (.ok ())
      exact answer.symm ▸ .admitted accepting room
    · rw [if_neg room] at admission
      rw [submitted_refused accepting admission (new_unknown sound new), calling_answer]
      exact .full accepting room

end Soundness
end CommandGateway.Pool
