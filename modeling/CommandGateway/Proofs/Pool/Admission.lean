import CommandGateway.Proofs.Pool.Submit

/- What a call that brings a batch is answered, in every state that a pool can come to. Only a
   shutdown closes the queue, only batches that nobody has taken fill it, and a call that is refused
   has changed nothing. -/
namespace CommandGateway.Pool

/-- The accepted batches that no worker has taken. -/
def untaken (story : List Entry) : List Job :=
  (acceptedIn story).filter fun job => job.id ∉ (takenIn story).map Job.id

/-- What a whole call that brings a batch is answered. -/
def reply (p : Pool) (id : Uuid) (batch : Batch) : Except ExecutorError Unit :=
  (submitted p id batch).answerTo p.submissions.length

def Action.isOnward : Action → Bool
  | .mark _ | .finish _ _ | .record _ | .deliver _ | .leave _ => true
  | _ => false

section Steps
variable {p q : Pool} {a : Action} {es past : List Entry} {acts : List Action}
  {workers capacity retained : Nat}

theorem step_accepting (step : Step p a es q) :
    q.accepting = true ↔ p.accepting = true ∧ a ≠ .close := by
  cases step <;> simp

theorem run_accepting (run : p.run? acts = some q) :
    q.accepting = true ↔ p.accepting = true ∧ .close ∉ acts := by
  induction acts generalizing p with
  | nil =>
    cases run
    simp
  | cons a rest ih =>
    simp only [run?] at run
    split at run
    · rename_i next possible
      rw [ih run, step_accepting (act_step possible), List.mem_cons, not_or, and_assoc,
        ne_comm (a := a)]
    · cases run

theorem untaken_eq_queue (acc : Accounts p past) (fresh : (enteredIn past).Nodup) :
    untaken past = p.queue := by
  have ids := accepted_nodup acc fresh
  rw [acc.queued, List.map_append] at ids
  obtain ⟨-, -, apart⟩ := List.nodup_append.mp ids
  rw [untaken, acc.queued, List.filter_append]
  have gone : (takenIn past).filter (fun job => job.id ∉ (takenIn past).map Job.id) = [] := by
    refine List.filter_eq_nil_iff.mpr fun job member => ?_
    simpa using ⟨job, member, rfl⟩
  have kept : p.queue.filter (fun job => job.id ∉ (takenIn past).map Job.id) = p.queue := by
    refine List.filter_eq_self.mpr fun job member => decide_eq_true fun taken => ?_
    exact apart job.id taken job.id (List.mem_map_of_mem member) rfl
  rw [gone, kept, List.nil_append]

theorem run_sound (run : (start workers capacity retained).run? acts = some p)
    (fresh : (issued acts).Nodup) : Sound (issued acts) p where
  story := by
    have entered := entered_chronicle run
    exact ⟨_, run_accounts run, run_tracks run fresh, entered.symm ▸ fresh,
      fun id member => entered ▸ member⟩
  early := run_none_left_early run
  staffed := fun _ => List.ne_nil_of_length_pos (by have := (run_dimensions run).count; omega)

theorem played_run (p : Pool) (acts : List Action) :
    ∃ steps, steps.Sublist acts ∧ p.run? steps = some (acts.foldl played p) := by
  induction acts generalizing p with
  | nil => exact ⟨[], List.Sublist.refl _, rfl⟩
  | cons a rest ih =>
    obtain ⟨steps, some, run⟩ := ih (played p a)
    cases acted : p.act? a with
    | none =>
      rw [played, acted, Option.getD_none] at run
      exact ⟨steps, some.cons a, by simpa [played, acted] using run⟩
    | some next =>
      rw [played, acted, Option.getD_some] at run
      exact ⟨a :: steps, some.cons_cons a, by simpa [run?, played, acted] using run⟩

end Steps

section Attendance
variable {p q : Pool} {a : Action} {es : List Entry} {acts : List Action} {call : Nat} {job : Job}
  {workers capacity retained : Nat}

theorem tracked_open (found : p.submissions[call]? = some (.tracked job)) : p.isOpen = true := by
  have waits : ∃ s ∈ p.submissions, (!s.hasReturned) = true :=
    ⟨_, List.mem_of_getElem? found, rfl⟩
  rw [isOpen, List.any_eq_true.mpr waits, Bool.or_true]

/-- As long as its queue is open a pool has all its workers, and no call finds nobody at the other
    end. -/
structure Attended (p : Pool) : Prop where
  early : NoneLeftEarly p
  staffed : p.workers ≠ []
  heard : ∀ (call : Nat) (job : Job), p.submissions[call]? ≠ some (.refused job .closed)

theorem attended_admission (attended : Attended p)
    (found : p.submissions[call]? = some (.tracked job)) : p.admission ≠ .error .closed := by
  rw [open_admission attended.early attended.staffed (tracked_open found)]
  split <;> simp

theorem step_attended (step : Step p a es q) (attended : Attended p) : Attended q := by
  refine ⟨step_none_left_early step attended.early, ?_, fun call job refused => ?_⟩
  · have staffed := List.length_pos_iff.mpr attended.staffed
    exact List.length_pos_iff.mp (step_workers step ▸ staffed)
  · cases step with
    | enterOpen | enterClosed =>
      refine attended.heard call job ?_
      rw [List.getElem?_append] at refused
      split at refused
      · exact refused
      · simp [List.getElem?_singleton] at refused
    | refuse other job' e found full =>
      by_cases same : e = .closed
      · exact attended_admission attended found (same ▸ full)
      · exact attended.heard call job (get_of_set (by simp [same]) refused)
    | track | accept | retract => exact attended.heard call job (get_of_set (by simp) refused)
    | _ => exact attended.heard call job refused

theorem run_attended (run : (start workers capacity retained).run? acts = some p) :
    Attended p := by
  refine run_keeps_state step_attended run ⟨?_, ?_, ?_⟩
  · exact start_none_left_early workers capacity retained
  · simp [start]
  · simp [start]

end Attendance

section Replies
variable {p q : Pool} {used : List Uuid} {id : Uuid} {batch : Batch} {e : ExecutorError}

theorem reply_cases (sound : Sound used p) (new : id ∉ used) (batch : Batch) :
    Submitted p id batch (reply p id batch) (submitted p id batch) :=
  submitted_cases sound new

theorem reply_eq (sound : Sound used p) (new : id ∉ used) (batch : Batch) :
    reply p id batch =
      if p.accepting then if p.queue.length < p.capacity then .ok () else .error .queueFull
      else .error .closed := by
  have called := reply_cases sound new batch
  generalize reply p id batch = result at called
  generalize submitted p id batch = q at called
  cases called with
  | closed shut => simp [shut]
  | full accepting full => simp [accepting, full]
  | admitted accepting room => simp [accepting, room]

theorem reply_closed_iff (sound : Sound used p) (new : id ∉ used) :
    reply p id batch = .error .closed ↔ ¬ p.accepting = true := by
  rw [reply_eq sound new]
  split
  · split <;> simp [*]
  · simp [*]

theorem reply_full_iff (sound : Sound used p) (new : id ∉ used) :
    reply p id batch = .error .queueFull ↔
      p.accepting = true ∧ ¬ p.queue.length < p.capacity := by
  rw [reply_eq sound new]
  split
  · split <;> simp [*]
  · simp [*]

theorem reply_ok_iff (sound : Sound used p) (new : id ∉ used) :
    reply p id batch = .ok () ↔ p.accepting = true ∧ p.queue.length < p.capacity := by
  rw [reply_eq sound new]
  split
  · split <;> simp [*]
  · simp [*]

theorem reply_refused (sound : Sound used p) (new : id ∉ used)
    (refused : reply p id batch = .error e) :
    submitted p id batch =
      { p with submissions := p.submissions ++ [.returned (.error e)] } := by
  have called := reply_cases sound new batch
  rw [refused] at called
  generalize submitted p id batch = q at called
  cases called <;> rfl

theorem reply_admitted (sound : Sound used p) (new : id ∉ used)
    (admitted : reply p id batch = .ok ()) :
    p.tracker.get? id = none ∧ submitted p id batch = { p with
      tracker := p.tracker.set id .queued
      queue := p.queue ++ [⟨id, batch⟩]
      tickets := (id, .pending) :: p.tickets
      submissions := p.submissions ++ [.returned (.ok ())] } := by
  have called := reply_cases sound new batch
  rw [admitted] at called
  refine ⟨new_unknown sound new, ?_⟩
  generalize submitted p id batch = q at called
  cases called
  rfl

theorem taken_reply {w : Nat} {capacity : Nat} (sound : Sound used p) (new : id ∉ used)
    (accepting : p.accepting = true) (limit : p.capacity = capacity)
    (room : p.queue.length ≤ capacity) (taken : p.act? (.take w) = some q) (batch : Batch) :
    reply q id batch = .ok () := by
  have step := act_step taken
  have sound' : Sound used q := step_sound step sound (by simp [issued])
  rw [reply_ok_iff sound' new]
  generalize entries p (.take w) = es at step
  cases step with
  | take w job rest idle head =>
    simp only [head, List.length_cons] at room
    have fewer : rest.length < p.capacity := by omega
    exact ⟨accepting, fewer⟩

theorem onward_reply {a : Action} (sound : Sound used p) (new : id ∉ used) (onward : a.isOnward)
    (acted : p.act? a = some q) (batch : Batch) : reply q id batch = reply p id batch := by
  have step := act_step acted
  have none : issued [a] = [] := by cases a <;> first | rfl | cases onward
  have sound' : Sound used q := by
    have next := step_sound step sound (by simp [none])
    rwa [none, List.nil_append] at next
  rw [reply_eq sound' new, reply_eq sound new]
  generalize entries p a = es at step
  cases step <;> first | rfl | cases onward

end Replies

/-- What a whole call comes to in a pool of this capacity, after these actions and their story. Not
    even a call that others come in between of is told by the queue itself that it is closed
    (`attended`). The taking of a job makes room (`freed`), and nothing that is done with the job
    later does (`unmoved`). -/
structure Answered (capacity : Nat) (acts : List Action) (story : List Entry) (p : Pool) (id : Uuid)
    (batch : Batch) : Prop where
  whole : ∃ steps, steps.Sublist (submission p.submissions.length id batch) ∧
    p.run? steps = some (submitted p id batch)
  closed : reply p id batch = .error .closed ↔ .close ∈ acts
  full : reply p id batch = .error .queueFull ↔
    .close ∉ acts ∧ (untaken story).length = max capacity 1
  accepted : reply p id batch = .ok () ↔
    .close ∉ acts ∧ (untaken story).length ≠ max capacity 1
  admitted : reply p id batch = .ok () →
    p.tracker.get? id = none ∧ submitted p id batch = { p with
      tracker := p.tracker.set id .queued
      queue := p.queue ++ [⟨id, batch⟩]
      tickets := (id, .pending) :: p.tickets
      submissions := p.submissions ++ [.returned (.ok ())] }
  refused : ∀ e, reply p id batch = .error e →
    submitted p id batch = { p with submissions := p.submissions ++ [.returned (.error e)] }
  attended : ∀ (call : Nat) (job : Job),
    (p.submissions[call]? = some (.tracked job) → p.admission ≠ .error .closed) ∧
      p.submissions[call]? ≠ some (.refused job .closed)
  freed : .close ∉ acts → ∀ w q, p.act? (.take w) = some q → reply q id batch = .ok ()
  unmoved : ∀ a q, a.isOnward → p.act? a = some q → reply q id batch = reply p id batch

theorem room_decides_submission {workers capacity retained : Nat} {acts : List Action} {p : Pool}
    (run : (start workers capacity retained).run? acts = some p) (fresh : (issued acts).Nodup)
    {id : Uuid} (new : id ∉ issued acts) (batch : Batch) :
    Answered capacity acts (chronicle (start workers capacity retained) acts) p id batch := by
  have sound := run_sound run fresh
  have dims := run_dimensions run
  have attended := run_attended run
  have waiting := untaken_eq_queue (run_accounts run) ((entered_chronicle run).symm ▸ fresh)
  have limit := dims.limit
  have room := dims.room
  have opened : p.accepting = true ↔ .close ∉ acts := by
    rw [run_accepting run]
    simp [start]
  constructor
  case whole => exact played_run p _
  case closed => rw [reply_closed_iff sound new, opened, not_not]
  case full =>
    rw [reply_full_iff sound new, opened, waiting, limit]
    exact and_congr_right fun _ => ⟨fun none => by omega, fun all => by omega⟩
  case accepted =>
    rw [reply_ok_iff sound new, opened, waiting, limit]
    exact and_congr_right fun _ => ⟨fun some => by omega, fun some => by omega⟩
  case admitted => exact reply_admitted sound new
  case refused => exact fun e => reply_refused sound new
  case attended =>
    exact fun call job => ⟨attended_admission attended, attended.heard call job⟩
  case freed =>
    exact fun never w q taken => taken_reply sound new (opened.mpr never) limit room taken batch
  case unmoved => exact fun a q onward acted => onward_reply sound new onward acted batch

def seatFilled : List Action :=
  [.enter (Uuid.ofNat 1) untagged, .track 0, .send 0, .take 0, .mark 0,
    .enter (Uuid.ofNat 2) untagged, .track 1, .send 1]

/-- The job that runs takes no seat, and the one that is queued does. -/
theorem filled_seat_decides_submission : ∃ p, (start 1 0 1).run? seatFilled = some p ∧
    (issued seatFilled).Nodup ∧ Uuid.ofNat 3 ∉ issued seatFilled ∧
    Answered 0 seatFilled (chronicle (start 1 0 1) seatFilled) p (Uuid.ofNat 3) untagged ∧
    reply p (Uuid.ofNat 3) untagged = .error .queueFull := by
  have run : (start 1 0 1).run? seatFilled = some _ := rfl
  have fresh : (issued seatFilled).Nodup := by decide
  have new : Uuid.ofNat 3 ∉ issued seatFilled := by decide
  exact ⟨_, run, fresh, new, room_decides_submission run fresh new untagged, rfl⟩

end CommandGateway.Pool
