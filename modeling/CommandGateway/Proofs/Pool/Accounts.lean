import CommandGateway.Proofs.Pool.Chronicle
import Mathlib.Data.List.Nodup
import Mathlib.Data.List.Perm.Basic

/- Where every batch is. A batch that came in is with its call, in the queue, in the hand of a
   worker or done with, and in one of these places only: what the chronicle says to have come to a
   place is what has left it since together with what is there now. -/
namespace CommandGateway.Pool

def enteredIn (past : List Entry) : List Uuid :=
  past.filterMap fun | .entered id => some id | _ => none

def refusedIn (past : List Entry) : List Uuid :=
  past.filterMap fun | .refused id => some id | _ => none

def acceptedIn (past : List Entry) : List Job :=
  past.filterMap fun | .accepted job => some job | _ => none

def takenIn (past : List Entry) : List Job :=
  past.filterMap fun | .taken job => some job | _ => none

def dispatchedIn (past : List Entry) : List Job :=
  past.filterMap fun | .dispatched job => some job | _ => none

def recordedIn (past : List Entry) : List (Job × Ended Report) :=
  past.filterMap fun | .recorded job result => some (job, result) | _ => none

def recordedIds (past : List Entry) : List Uuid := (recordedIn past).map fun r => r.1.id

def deliveredIn (past : List Entry) : List (Job × Ended Report) :=
  past.filterMap fun | .delivered job result => some (job, result) | _ => none

def issued (acts : List Action) : List Uuid :=
  acts.filterMap fun | .enter id _ => some id | _ => none

def Submission.id? : Submission → Option Uuid
  | .entered job => some job.id
  | .tracked job => some job.id
  | .refused job _ => some job.id
  | .returned _ => none

def underWay (p : Pool) : List Uuid := p.submissions.filterMap Submission.id?

def Phase.waiting? : Phase → Option Job
  | .taken job => some job
  | _ => none

def Phase.running? : Phase → Option Job
  | .running job => some job
  | .ended job _ => some job
  | _ => none

def Phase.recorded? : Phase → Option (Job × Ended Report)
  | .recorded job result => some (job, result)
  | _ => none

section Moves
variable {α β : Type} {f : α → Option β} {l : List α} {i : Nat} {a b : α}

theorem filter_map_set (found : l[i]? = some a) :
    ((f a).toList ++ (l.set i b).filterMap f).Perm ((f b).toList ++ l.filterMap f) := by
  induction l generalizing i with
  | nil => simp at found
  | cons c rest ih =>
    cases i with
    | zero =>
      simp only [List.getElem?_cons_zero, Option.some.injEq] at found
      subst c
      simp only [List.set_cons_zero, List.filterMap_cons]
      cases f a <;> cases f b <;> simp [List.Perm.swap]
    | succ i =>
      simp only [List.getElem?_cons_succ] at found
      have tail := ih found
      simp only [List.set_cons_succ, List.filterMap_cons]
      cases f c with
      | none => exact tail
      | some x => exact List.perm_middle.trans ((tail.cons x).trans List.perm_middle.symm)

theorem filter_map_set_same (found : l[i]? = some a) (same : f a = f b) :
    (l.set i b).filterMap f = l.filterMap f := by
  induction l generalizing i with
  | nil => simp at found
  | cons c rest ih =>
    cases i with
    | zero =>
      simp only [List.getElem?_cons_zero, Option.some.injEq] at found
      subst c
      simp [List.filterMap_cons, same]
    | succ i =>
      simp only [List.getElem?_cons_succ] at found
      simp [List.filterMap_cons, ih found]

theorem mem_comes_in {x y : β} (found : l[i]? = some a) (before : f a = none)
    (after : f b = some x) : y ∈ (l.set i b).filterMap f ↔ y = x ∨ y ∈ l.filterMap f := by
  have set := filter_map_set (f := f) (b := b) found
  simp only [before, after, Option.toList_none, Option.toList_some, List.nil_append] at set
  simpa using set.mem_iff

theorem mem_goes_out {x y : β} (found : l[i]? = some a) (before : f a = some x)
    (after : f b = none) : y ∈ l.filterMap f ↔ y = x ∨ y ∈ (l.set i b).filterMap f := by
  have set := filter_map_set (f := f) (b := b) found
  simp only [before, after, Option.toList_none, Option.toList_some, List.nil_append] at set
  simpa using set.symm.mem_iff

theorem comes_in {x : β} {xs ys : List β} (account : xs.Perm (ys ++ l.filterMap f))
    (found : l[i]? = some a) (before : f a = none) (after : f b = some x) :
    (xs ++ [x]).Perm (ys ++ (l.set i b).filterMap f) := by
  have set : ((l.set i b).filterMap f).Perm (x :: l.filterMap f) := by
    simpa [before, after] using filter_map_set (f := f) (b := b) found
  calc List.Perm (xs ++ [x]) (x :: xs) := List.perm_append_singleton x xs
    List.Perm _ (x :: (ys ++ l.filterMap f)) := account.cons x
    List.Perm _ (ys ++ x :: l.filterMap f) := List.perm_middle.symm
    List.Perm _ (ys ++ (l.set i b).filterMap f) := set.symm.append_left ys

theorem goes_out {x : β} {xs ys : List β} (account : xs.Perm (ys ++ l.filterMap f))
    (found : l[i]? = some a) (before : f a = some x) (after : f b = none) :
    xs.Perm ((ys ++ [x]) ++ (l.set i b).filterMap f) := by
  have set : (x :: (l.set i b).filterMap f).Perm (l.filterMap f) := by
    simpa [before, after] using filter_map_set (f := f) (b := b) found
  rw [List.append_assoc]
  exact account.trans (set.symm.append_left ys)

theorem same_key_same_place {γ : Type} {key : β → γ} {j : Nat} {x y : β}
    (nodup : ((l.filterMap f).map key).Nodup) (first : l[i]? = some a) (second : l[j]? = some b)
    (image : f a = some x) (image' : f b = some y) (same : key x = key y) : i = j := by
  induction l generalizing i j with
  | nil => simp at first
  | cons c rest ih =>
    have later : ∀ {k : Nat} {d : α} {z : β}, rest[k]? = some d → f d = some z →
        key z ∈ (rest.filterMap f).map key := fun found image =>
      List.mem_map_of_mem (List.mem_filterMap.mpr ⟨_, List.mem_of_getElem? found, image⟩)
    have tail : ((rest.filterMap f).map key).Nodup := by
      refine nodup.sublist (List.Sublist.map key ?_)
      exact (List.sublist_cons_self c rest).filterMap f
    cases i with
    | zero =>
      obtain rfl : c = a := by simpa using first
      simp only [List.filterMap_cons, image, List.map_cons, List.nodup_cons] at nodup
      cases j with
      | zero => rfl
      | succ j => exact absurd (same ▸ later (by simpa using second) image') nodup.1
    | succ i =>
      cases j with
      | zero =>
        obtain rfl : c = b := by simpa using second
        simp only [List.filterMap_cons, image', List.map_cons, List.nodup_cons] at nodup
        exact absurd (same ▸ later (by simpa using first) image) nodup.1
      | succ j =>
        simp only [List.getElem?_cons_succ] at first second
        exact congrArg (· + 1) (ih tail first second)

theorem get_of_set {c : α} {j : Nat} (differs : b ≠ c) (h : (l.set i b)[j]? = some c) :
    l[j]? = some c := by
  rw [List.getElem?_set] at h
  split at h
  · split at h
    · exact absurd (Option.some.inj h) differs
    · cases h
  · exact h

theorem get_set_of_get {c : α} {j : Nat} (found : l[i]? = some a) (differs : a ≠ c)
    (kept : l[j]? = some c) : (l.set i b)[j]? = some c := by
  have apart : i ≠ j := by
    rintro rfl
    exact differs (Option.some.inj (found.symm.trans kept))
  rw [List.getElem?_set_ne apart, kept]

end Moves

structure Accounts (p : Pool) (past : List Entry) : Prop where
  calls : (enteredIn past).Perm
    ((refusedIn past ++ (acceptedIn past).map Job.id) ++ underWay p)
  queued : acceptedIn past = takenIn past ++ p.queue
  waiting : (takenIn past).Perm (dispatchedIn past ++ p.workers.filterMap Phase.waiting?)
  running : (dispatchedIn past).Perm
    ((recordedIn past).map Prod.fst ++ p.workers.filterMap Phase.running?)
  recorded : (recordedIn past).Perm (deliveredIn past ++ p.workers.filterMap Phase.recorded?)

section Steps
variable {p q : Pool} {a : Action} {es past : List Entry}

theorem step_calls (step : Step p a es q) (acc : Accounts p past) :
    (enteredIn (past ++ es)).Perm
      ((refusedIn (past ++ es) ++ (acceptedIn (past ++ es)).map Job.id) ++ underWay q) := by
  have calls := acc.calls
  simp only [enteredIn, refusedIn, acceptedIn, underWay, List.filterMap_append] at calls ⊢
  cases step with
  | enterOpen id batch accepting =>
    simpa [Submission.id?] using calls.append_right [id]
  | enterClosed id batch closed =>
    have one := (List.perm_append_singleton id _).trans (calls.cons id)
    simp only [List.append_assoc] at one
    simpa [Submission.id?, List.filterMap_cons] using one.trans List.perm_middle.symm
  | track call job found =>
    rw [filter_map_set_same found (by simp [Submission.id?])]
    simpa using calls
  | accept call job found admitted =>
    simpa using goes_out (b := .returned (.ok ())) calls found rfl rfl
  | refuse call job e found full =>
    rw [filter_map_set_same found (by simp [Submission.id?])]
    simpa using calls
  | retract call job e found =>
    have out := goes_out (b := .returned (.error e)) calls found rfl rfl
    simp only [List.append_assoc, List.cons_append, List.nil_append] at out
    simpa using out.trans (List.perm_middle.append_left _)
  | _ => simpa using calls

theorem step_queued (step : Step p a es q) (acc : Accounts p past) :
    acceptedIn (past ++ es) = takenIn (past ++ es) ++ q.queue := by
  have queued := acc.queued
  simp only [acceptedIn, takenIn, List.filterMap_append] at queued ⊢
  cases step with
  | accept call job found admitted => simp [queued]
  | take w job rest idle head => simp [queued, head]
  | _ => simpa using queued

theorem step_waiting (step : Step p a es q) (acc : Accounts p past) :
    (takenIn (past ++ es)).Perm
      (dispatchedIn (past ++ es) ++ q.workers.filterMap Phase.waiting?) := by
  have waiting := acc.waiting
  simp only [takenIn, dispatchedIn, List.filterMap_append] at waiting ⊢
  cases step with
  | take w job rest idle head => simpa using comes_in waiting idle rfl rfl
  | mark w job found => simpa using goes_out (b := .running job) waiting found rfl rfl
  | finish w job result found | record w job result found | deliver w job result found =>
    rw [filter_map_set_same found (by rfl)]
    simpa using waiting
  | leave w idle drained shut =>
    rw [filter_map_set_same idle (by rfl)]
    simpa using waiting
  | _ => simpa using waiting

theorem step_running (step : Step p a es q) (acc : Accounts p past) :
    (dispatchedIn (past ++ es)).Perm
      ((recordedIn (past ++ es)).map Prod.fst ++ q.workers.filterMap Phase.running?) := by
  have running := acc.running
  simp only [dispatchedIn, recordedIn, List.filterMap_append] at running ⊢
  cases step with
  | take w job rest idle head =>
    rw [filter_map_set_same idle (by rfl)]
    simpa using running
  | mark w job found => simpa using comes_in running found rfl rfl
  | finish w job result found | deliver w job result found =>
    rw [filter_map_set_same found (by rfl)]
    simpa using running
  | record w job result found =>
    simpa using goes_out (b := .recorded job result) running found rfl rfl
  | leave w idle drained shut =>
    rw [filter_map_set_same idle (by rfl)]
    simpa using running
  | _ => simpa using running

theorem step_recorded (step : Step p a es q) (acc : Accounts p past) :
    (recordedIn (past ++ es)).Perm
      (deliveredIn (past ++ es) ++ q.workers.filterMap Phase.recorded?) := by
  have recorded := acc.recorded
  simp only [recordedIn, deliveredIn, List.filterMap_append] at recorded ⊢
  cases step with
  | take w job rest idle head =>
    rw [filter_map_set_same idle (by rfl)]
    simpa using recorded
  | mark w job found | finish w job result found =>
    rw [filter_map_set_same found (by rfl)]
    simpa using recorded
  | record w job result found => simpa using comes_in recorded found rfl rfl
  | deliver w job result found => simpa using goes_out (b := .idle) recorded found rfl rfl
  | leave w idle drained shut =>
    rw [filter_map_set_same idle (by rfl)]
    simpa using recorded
  | _ => simpa using recorded

theorem step_accounts (step : Step p a es q) (acc : Accounts p past) :
    Accounts q (past ++ es) :=
  ⟨step_calls step acc, step_queued step acc, step_waiting step acc, step_running step acc,
    step_recorded step acc⟩

end Steps

theorem start_accounts (workers capacity retained : Nat) :
    Accounts (start workers capacity retained) [] := by
  constructor <;>
    simp [start, underWay, enteredIn, refusedIn, acceptedIn, takenIn, dispatchedIn, recordedIn,
      deliveredIn, List.filterMap_replicate, Phase.waiting?, Phase.running?, Phase.recorded?]

theorem step_entered {p q : Pool} {a : Action} {es : List Entry} (step : Step p a es q) :
    enteredIn es = issued [a] := by
  cases step <;> rfl

theorem entered_chronicle {p q : Pool} {acts : List Action} (run : p.run? acts = some q) :
    enteredIn (chronicle p acts) = issued acts := by
  induction acts generalizing p with
  | nil => rfl
  | cons a rest ih =>
    simp only [run?] at run
    split at run
    · rename_i next possible
      have one := step_entered (act_step possible)
      have more := ih run
      simp only [enteredIn, issued] at one more
      simp only [chronicle, possible, enteredIn, issued, List.filterMap_append, one, more]
      exact (List.filterMap_append (l := [a])).symm
    · cases run

section Runs
variable {p : Pool} {acts : List Action} {workers capacity retained : Nat}

theorem run_accounts (run : (start workers capacity retained).run? acts = some p) :
    Accounts p (chronicle (start workers capacity retained) acts) :=
  run_keeps step_accounts run [] (start_accounts workers capacity retained)

/-- What every step keeps as long as no id came in twice, a run keeps that makes no id twice. -/
theorem fresh_run_keeps {Inv : Pool → List Entry → Prop}
    (keeps : ∀ {p q a es past}, Step p a es q → Accounts p past → (enteredIn past).Nodup →
      Inv p past → Inv q (past ++ es))
    (run : (start workers capacity retained).run? acts = some p) (fresh : (issued acts).Nodup)
    (initial : Inv (start workers capacity retained) []) :
    Inv p (chronicle (start workers capacity retained) acts) := by
  let Kept (p : Pool) (past : List Entry) : Prop :=
    Accounts p past ∧ ((enteredIn past).Nodup → Inv p past)
  have step : ∀ {p q a es past}, Step p a es q → Kept p past → Kept q (past ++ es) := by
    intro p q a es past step ⟨acc, inv⟩
    refine ⟨step_accounts step acc, fun fresh => ?_⟩
    have before : (enteredIn past).Nodup := by
      rw [enteredIn, List.filterMap_append] at fresh
      exact fresh.of_append_left
    exact keeps step acc before (inv before)
  have first : Kept (start workers capacity retained) [] :=
    ⟨start_accounts workers capacity retained, fun _ => initial⟩
  exact (run_keeps step run [] first).2 ((entered_chronicle run).symm ▸ fresh)

end Runs

section Distinct
variable {p : Pool} {past : List Entry} {w : Nat} {job : Job}

theorem calls_nodup (acc : Accounts p past) (fresh : (enteredIn past).Nodup) :
    ((refusedIn past ++ (acceptedIn past).map Job.id) ++ underWay p).Nodup :=
  acc.calls.nodup_iff.mp fresh

theorem accepted_nodup (acc : Accounts p past) (fresh : (enteredIn past).Nodup) :
    ((acceptedIn past).map Job.id).Nodup :=
  (calls_nodup acc fresh).of_append_left.of_append_right

theorem refused_not_accepted (acc : Accounts p past) (fresh : (enteredIn past).Nodup) {id : Uuid}
    (refused : id ∈ refusedIn past) : id ∉ (acceptedIn past).map Job.id := by
  have apart := (List.nodup_append.mp (calls_nodup acc fresh).of_append_left).2.2
  exact fun accepted => apart id refused id accepted rfl

theorem under_way_not_answered (acc : Accounts p past) (fresh : (enteredIn past).Nodup)
    {id : Uuid} (call : id ∈ underWay p) :
    id ∉ refusedIn past ∧ id ∉ (acceptedIn past).map Job.id := by
  have apart := (List.nodup_append.mp (calls_nodup acc fresh)).2.2
  constructor
  · exact fun refused => apart id (List.mem_append_left _ refused) id call rfl
  · exact fun accepted => apart id (List.mem_append_right _ accepted) id call rfl

theorem taken_nodup (acc : Accounts p past) (fresh : (enteredIn past).Nodup) :
    ((takenIn past).map Job.id).Nodup := by
  have accepted := accepted_nodup acc fresh
  rw [acc.queued, List.map_append] at accepted
  exact accepted.of_append_left

theorem dispatched_and_waiting_nodup (acc : Accounts p past) (fresh : (enteredIn past).Nodup) :
    ((dispatchedIn past).map Job.id ++
      (p.workers.filterMap Phase.waiting?).map Job.id).Nodup := by
  rw [← List.map_append]
  exact (acc.waiting.map Job.id).nodup_iff.mp (taken_nodup acc fresh)

theorem dispatched_nodup (acc : Accounts p past) (fresh : (enteredIn past).Nodup) :
    ((dispatchedIn past).map Job.id).Nodup :=
  (dispatched_and_waiting_nodup acc fresh).of_append_left

theorem recorded_and_running_nodup (acc : Accounts p past) (fresh : (enteredIn past).Nodup) :
    (recordedIds past ++ (p.workers.filterMap Phase.running?).map Job.id).Nodup := by
  have parts := (acc.running.map Job.id).nodup_iff.mp (dispatched_nodup acc fresh)
  rwa [List.map_append, List.map_map] at parts

theorem recorded_nodup (acc : Accounts p past) (fresh : (enteredIn past).Nodup) :
    (recordedIds past).Nodup :=
  (recorded_and_running_nodup acc fresh).of_append_left

theorem waiting_not_dispatched (acc : Accounts p past) (fresh : (enteredIn past).Nodup)
    (found : p.workers[w]? = some (.taken job)) : job.id ∉ (dispatchedIn past).map Job.id := by
  have apart := (List.nodup_append.mp (dispatched_and_waiting_nodup acc fresh)).2.2
  have here : job ∈ p.workers.filterMap Phase.waiting? :=
    List.mem_filterMap.mpr ⟨.taken job, List.mem_of_getElem? found, rfl⟩
  exact fun before => apart job.id before job.id (List.mem_map_of_mem here) rfl

theorem running_not_recorded {phase : Phase} (acc : Accounts p past)
    (fresh : (enteredIn past).Nodup) (found : p.workers[w]? = some phase)
    (running : phase.running? = some job) : job.id ∉ recordedIds past := by
  have apart := (List.nodup_append.mp (recorded_and_running_nodup acc fresh)).2.2
  have here : job ∈ p.workers.filterMap Phase.running? :=
    List.mem_filterMap.mpr ⟨phase, List.mem_of_getElem? found, running⟩
  exact fun before => apart job.id before job.id (List.mem_map_of_mem here) rfl

theorem taken_accepted (acc : Accounts p past) (taken : job ∈ takenIn past) :
    job ∈ acceptedIn past := by
  rw [acc.queued]
  exact List.mem_append_left _ taken

theorem dispatched_accepted (acc : Accounts p past) (dispatched : job ∈ dispatchedIn past) :
    job ∈ acceptedIn past :=
  taken_accepted acc (acc.waiting.mem_iff.mpr (List.mem_append_left _ dispatched))

theorem recorded_dispatched {result : Ended Report} (acc : Accounts p past)
    (recorded : (job, result) ∈ recordedIn past) : job ∈ dispatchedIn past :=
  acc.running.mem_iff.mpr (List.mem_append_left _ (List.mem_map_of_mem (f := Prod.fst) recorded))

theorem dispatched_id_accepted {id : Uuid} (acc : Accounts p past)
    (dispatched : id ∈ (dispatchedIn past).map Job.id) : id ∈ (acceptedIn past).map Job.id := by
  obtain ⟨job, member, rfl⟩ := List.mem_map.mp dispatched
  exact List.mem_map_of_mem (dispatched_accepted acc member)

theorem recorded_id_dispatched {id : Uuid} (acc : Accounts p past)
    (recorded : id ∈ recordedIds past) : id ∈ (dispatchedIn past).map Job.id := by
  obtain ⟨⟨job, result⟩, member, rfl⟩ := List.mem_map.mp recorded
  exact List.mem_map_of_mem (recorded_dispatched acc member)

end Distinct
end CommandGateway.Pool
