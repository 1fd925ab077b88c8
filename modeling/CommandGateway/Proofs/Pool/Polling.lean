import CommandGateway.Proofs.Pool.Shutdown
import Mathlib.Data.List.Destutter

/- What is learned of a job from outside, by asking the tracker again and again and from its ticket.
   Of an accepted job the tracker never tells anything that was true only earlier, and a ticket
   tells nothing that the tracker has not told before. -/
namespace CommandGateway.Pool

/-- What happens while somebody looks on: the pool goes on, or is asked about a job. -/
inductive Watch where
  | act (action : Action)
  | look

def Watch.action? : Watch → Option Action
  | .act action => some action
  | .look => none

def actionsIn (watch : List Watch) : List Action := watch.filterMap Watch.action?

def readings (id : Uuid) (p : Pool) : List Watch → List (Option JobState)
  | [] => []
  | .look :: rest => p.tracker.get? id :: readings id p rest
  | .act action :: rest =>
    match p.act? action with
    | some q => readings id q rest
    | none => []

/-- The items of a path in its order, each any number of times, and not all of them. -/
def Along {α : Type} : List α → List α → Prop
  | [], _ => True
  | x :: seen, path => ∃ rest, x :: rest <:+ path ∧ Along seen (x :: rest)

section Along
variable {α : Type} {x : α} {seen path later : List α}

theorem along_of_suffix (along : Along seen later) (suffix : later <:+ path) :
    Along seen path := by
  cases seen with
  | nil => exact True.intro
  | cons x seen =>
    obtain ⟨rest, here, more⟩ := along
    exact ⟨rest, here.trans suffix, more⟩

theorem along_subset (along : Along seen path) : ∀ x ∈ seen, x ∈ path := by
  induction seen generalizing path with
  | nil => exact fun _ none => absurd none List.not_mem_nil
  | cons x seen ih =>
    obtain ⟨rest, here, more⟩ := along
    exact List.forall_mem_cons.mpr ⟨here.subset List.mem_cons_self,
      fun y member => here.subset (ih more y member)⟩

theorem along_destutter [DecidableEq α] (along : Along seen path) :
    (seen.destutter (· ≠ ·)).Sublist path := by
  -- with what was read last, which is in front of the path that is left
  have goesOn : ∀ seen (x : α) path, Along seen (x :: path) →
      (seen.destutter' (· ≠ ·) x).Sublist (x :: path) := by
    intro seen
    induction seen with
    | nil => exact fun x path _ => List.sublist_append_left [x] path
    | cons y seen ih =>
      rintro x path ⟨rest, here, more⟩
      have next := ih y rest more
      by_cases same : x = y
      · subst same
        rw [List.destutter'_cons_neg _ (by simp)]
        exact next.trans here.sublist
      · rw [List.destutter'_cons_pos _ same]
        have behind : y :: rest <:+ path :=
          (List.suffix_cons_iff.mp here).resolve_left fun whole =>
            same (List.cons.inj whole).1.symm
        exact (next.trans behind.sublist).cons_cons x
  cases seen with
  | nil => simp
  | cons x seen =>
    obtain ⟨rest, here, more⟩ := along
    exact (goesOn seen x rest more).trans here.sublist

end Along

def life (result : Ended Report) : List (Option JobState) :=
  [none, some .queued, some .running, some (outcome result), none]

def progress (retained : Nat) (past : List Entry) (calls : List Uuid) (id : Uuid) : Nat :=
  if id ∈ recordedIds past then if id ∈ newest retained (recordedIds past) then 3 else 4
  else if id ∈ (dispatchedIn past).map Job.id then 2
  else if id ∈ (acceptedIn past).map Job.id ∨ id ∈ calls then 1 else 0

def EndsOnly (past : List Entry) (id : Uuid) (result : Ended Report) : Prop :=
  ∀ r ∈ recordedIn past, r.1.id = id → r.2 = result

section Progress
variable {retained : Nat} {past es : List Entry} {id : Uuid} {result : Ended Report}

theorem ends_only (id : Uuid) (nodup : (recordedIds past).Nodup) :
    ∃ result, EndsOnly past id result := by
  by_cases recorded : id ∈ recordedIds past
  · obtain ⟨⟨job, result⟩, member, rfl⟩ := List.mem_map.mp recorded
    refine ⟨result, fun r other same => ?_⟩
    exact congrArg Prod.snd (List.inj_on_of_nodup_map nodup other member same)
  · -- nothing is known yet, and so anything will do
    refine ⟨.panicked .other, fun r member same => absurd ?_ recorded⟩
    exact same ▸ List.mem_map_of_mem member

theorem ends_only_before (ends : EndsOnly (past ++ es) id result) : EndsOnly past id result := by
  intro r member
  refine ends r ?_
  rw [recordedIn, List.filterMap_append]
  exact List.mem_append_left _ member

theorem told_progress (retained : Nat) (calls : List Uuid) (nodup : (recordedIds past).Nodup)
    (ends : EndsOnly past id result) :
    ∃ rest, (life result).drop (progress retained past calls id) =
      told retained past calls id :: rest := by
  unfold progress
  by_cases recorded : id ∈ recordedIds past
  · obtain ⟨⟨job, result'⟩, member, rfl⟩ := List.mem_map.mp recorded
    obtain rfl : result' = result := ends _ member rfl
    rw [if_pos recorded, told_recorded nodup member]
    split <;> exact ⟨_, rfl⟩
  · rw [if_neg recorded, told_unrecorded recorded]
    split
    · exact ⟨_, rfl⟩
    · split <;> exact ⟨_, rfl⟩

theorem mem_newest_of_append {α : Type} {n : Nat} {x : α} {l more : List α}
    (nodup : (l ++ more).Nodup) (old : x ∈ l) (kept : x ∈ newest n (l ++ more)) :
    x ∈ newest n l := by
  have absent : x ∉ more := fun new => (List.nodup_append.mp nodup).2.2 x old x new rfl
  rw [newest, List.drop_append, List.mem_append] at kept
  have early := kept.resolve_right fun new => absent (List.mem_of_mem_drop new)
  have later : l.length - n ≤ (l ++ more).length - n := by
    rw [List.length_append]
    omega
  exact (List.drop_suffix_drop_left l later).subset early

theorem progress_le {calls calls' : List Uuid} (nodup : (recordedIds (past ++ es)).Nodup)
    (known : id ∈ calls → id ∈ (acceptedIn (past ++ es)).map Job.id ∨ id ∈ calls') :
    progress retained past calls id ≤ progress retained (past ++ es) calls' id := by
  have ids : recordedIds (past ++ es) = recordedIds past ++ recordedIds es := by
    simp [recordedIds, recordedIn]
  have stays : id ∈ recordedIds past → id ∈ recordedIds (past ++ es) :=
    fun recorded => ids ▸ List.mem_append_left _ recorded
  have started : id ∈ (dispatchedIn past).map Job.id →
      id ∈ (dispatchedIn (past ++ es)).map Job.id := by
    intro dispatched
    rw [dispatchedIn, List.filterMap_append, List.map_append]
    exact List.mem_append_left _ dispatched
  have waits : id ∈ (acceptedIn past).map Job.id ∨ id ∈ calls →
      id ∈ (acceptedIn (past ++ es)).map Job.id ∨ id ∈ calls' := by
    rintro (accepted | call)
    · rw [acceptedIn, List.filterMap_append, List.map_append]
      exact Or.inl (List.mem_append_left _ accepted)
    · exact known call
  have kept : id ∈ recordedIds past → id ∈ newest retained (recordedIds (past ++ es)) →
      id ∈ newest retained (recordedIds past) := by
    rw [ids] at nodup ⊢
    exact mem_newest_of_append nodup
  unfold progress
  split_ifs <;> first | omega | simp_all

end Progress

section Readings
variable {p q : Pool} {past es : List Entry} {id : Uuid} {result : Ended Report}
  {watch : List Watch}

theorem step_retained {a : Action} (step : Step p a es q) :
    q.tracker.retained = p.tracker.retained := by
  cases step with
  | track | mark | record => exact set_retained ..
  | _ => rfl

theorem step_known {a : Action} (step : Step p a es q) (unrefused : id ∉ refusedIn es)
    (call : id ∈ trackedCalls p) :
    id ∈ (acceptedIn (past ++ es)).map Job.id ∨ id ∈ trackedCalls q := by
  cases step with
  | enterOpen | enterClosed =>
    refine Or.inr ?_
    simp only [trackedCalls, List.filterMap_append]
    exact List.mem_append_left _ call
  | track c job found =>
    exact Or.inr ((mem_comes_in (f := Submission.trackedId?) found rfl rfl).mpr (Or.inr call))
  | accept c job found admitted =>
    have calls : id ∈ trackedCalls p ↔ id = job.id ∨
        id ∈ (p.submissions.set c (.returned (.ok ()))).filterMap Submission.trackedId? :=
      mem_goes_out found rfl rfl
    rcases calls.mp call with rfl | stays
    · exact Or.inl (by simp [acceptedIn])
    · exact Or.inr stays
  | refuse c job e found full =>
    have same : (p.submissions.set c (.refused job e)).filterMap Submission.trackedId? =
        p.submissions.filterMap Submission.trackedId? := filter_map_set_same found rfl
    exact Or.inr (same.symm ▸ call : id ∈ (p.submissions.set c _).filterMap _)
  | retract c job e found =>
    have calls : id ∈ trackedCalls p ↔ id = job.id ∨
        id ∈ (p.submissions.set c (.returned (.error e))).filterMap Submission.trackedId? :=
      mem_goes_out found rfl rfl
    rcases calls.mp call with rfl | stays
    · exact absurd List.mem_cons_self unrefused
    · exact Or.inr stays
  | _ => exact Or.inr call

/-- By induction on what happens: the life that is ahead of the job only gets shorter. -/
theorem readings_along (acc : Accounts p past) (tracks : Tracks p past)
    (fresh : (enteredIn (past ++ chronicle p (actionsIn watch))).Nodup)
    (unrefused : id ∉ refusedIn (chronicle p (actionsIn watch)))
    (ends : EndsOnly (past ++ chronicle p (actionsIn watch)) id result)
    (later : p.run? (actionsIn watch) = some q) :
    Along (readings id p watch)
      ((life result).drop (progress p.tracker.retained past (trackedCalls p) id)) := by
  have before : (enteredIn past).Nodup := by
    rw [enteredIn, List.filterMap_append] at fresh
    exact fresh.of_append_left
  induction watch generalizing p past with
  | nil => exact True.intro
  | cons first rest ih =>
    cases first with
    | look =>
      obtain ⟨more, here⟩ := told_progress p.tracker.retained (trackedCalls p)
        (recorded_nodup acc before) (ends_only_before ends)
      have goesOn := ih acc tracks fresh unrefused ends later before
      rw [here] at goesOn ⊢
      exact ⟨more, tracks.states id ▸ List.suffix_rfl, tracks.states id ▸ goesOn⟩
    | act action =>
      have first : actionsIn (.act action :: rest) = action :: actionsIn rest := rfl
      rw [first] at fresh ends later unrefused
      simp only [Pool.run?] at later
      split at later
      · rename_i next possible
        have step := act_step possible
        simp only [chronicle, possible, ← List.append_assoc] at fresh ends unrefused
        rw [refusedIn, List.filterMap_append, List.mem_append, not_or] at unrefused
        have fresh' : (enteredIn (past ++ entries p action)).Nodup := by
          rw [enteredIn, List.filterMap_append] at fresh
          exact fresh.of_append_left
        have acc' := step_accounts step acc
        have tracks' := step_tracks step acc before tracks
        have goesOn := ih acc' tracks' fresh unrefused.2 ends later fresh'
        rw [step_retained step] at goesOn
        simp only [readings, possible]
        exact along_of_suffix goesOn (List.drop_suffix_drop_left _
          (progress_le (recorded_nodup acc' fresh') (step_known step unrefused.1)))
      · cases later

end Readings

def Honest (p : Pool) (past : List Entry) : Prop :=
  ∀ id ticket, ticketOf id p.tickets = some ticket →
    ticket = .pending ∨ ∃ r ∈ deliveredIn past, r.1.id = id ∧ ticket = verdict r.2

section Tickets
variable {p q : Pool} {a : Action} {past es : List Entry} {job : Job} {result : Ended Report}

theorem honest_of_fewer (honest : Honest p past)
    (tickets : ∀ id ticket, ticketOf id q.tickets = some ticket →
      ticket = .pending ∨ ticketOf id p.tickets = some ticket) : Honest q (past ++ es) := by
  intro id ticket found
  rcases tickets id ticket found with pending | before
  · exact Or.inl pending
  · refine (honest id ticket before).imp_right ?_
    rintro ⟨r, delivered, same⟩
    rw [deliveredIn, List.filterMap_append]
    exact ⟨r, List.mem_append_left _ delivered, same⟩

theorem step_honest (step : Step p a es q) (honest : Honest p past) : Honest q (past ++ es) := by
  cases step with
  | accept call job found admitted =>
    refine honest_of_fewer honest fun id ticket found => ?_
    simp only [ticketOf] at found
    split at found
    · exact Or.inl (Option.some.inj found).symm
    · exact Or.inr found
  | dropHeld other held | dropUnheld other unheld =>
    refine honest_of_fewer honest fun id ticket found => Or.inr ?_
    rw [ticket_of_filter] at found
    split at found
    · cases found
    · exact found
  | deliver w job result found =>
    intro id ticket told
    rw [ticket_of_tell] at told
    split at told
    · rename_i same
      obtain ⟨_, -, rfl⟩ := Option.map_eq_some_iff.mp told
      refine Or.inr ⟨(job, result), ?_, same.symm, rfl⟩
      rw [deliveredIn, List.filterMap_append]
      exact List.mem_append_right _ List.mem_cons_self
    · exact honest_of_fewer (q := p) honest (fun _ _ => Or.inr) id ticket told
  | _ => exact honest_of_fewer honest fun _ _ => Or.inr

theorem run_honest {workers capacity retained : Nat} {acts : List Action}
    (run : (start workers capacity retained).run? acts = some p) :
    Honest p (chronicle (start workers capacity retained) acts) :=
  run_keeps step_honest run [] fun _ _ none => by cases none

theorem verdict_abandoned_iff :
    verdict result = .abandoned ↔ ∃ error, outcome result = .failed error := by
  cases result <;> simp [verdict, outcome]

theorem recorded_told_next (acc : Accounts p past) (tickets : Tickets p past)
    (recorded : (job, result) ∈ recordedIn past) (kept : job.id ∉ droppedIn past) :
    ticketOf job.id p.tickets = some (verdict result) ∨
      ∃ w q, p.act? (.deliver w) = some q ∧ ticketOf job.id q.tickets = some (verdict result) := by
  rcases List.mem_append.mp (acc.recorded.mem_iff.mp recorded) with delivered | held
  · exact Or.inl (tickets.told job result delivered kept)
  · obtain ⟨phase, member, shape⟩ := List.mem_filterMap.mp held
    obtain ⟨w, here⟩ := List.getElem?_of_mem member
    cases phase with
    | recorded other last =>
      cases shape
      have accepted := dispatched_accepted acc (recorded_dispatched acc recorded)
      obtain ⟨ticket, found⟩ := ticket_of_held (tickets.held job accepted kept)
      refine Or.inr ⟨w, { p with tickets := tell job.id (verdict result) p.tickets }.setWorker w
        .idle, by simp only [act?, deliver?, here], ?_⟩
      simp only [setWorker, ticket_of_tell, if_pos, found, Option.map_some]
    | _ => cases shape

end Tickets

def Watch.drops (id : Uuid) : Watch → Bool
  | .act (.dropTicket other) => other = id
  | _ => false

def undropped (id : Uuid) (watch : List Watch) : List Watch := watch.filter fun w => !w.drops id

section Drops
variable {p p' q : Pool} {id other : Uuid} {a : Action} {watch : List Watch}

theorem tell_filter (name : Uuid) (v : Ticket) (tickets : List (Uuid × Ticket)) :
    (tell name v tickets).filter (·.1 ≠ id) = tell name v (tickets.filter (·.1 ≠ id)) := by
  simp only [tell, List.filter_map]
  congr 1
  apply List.filter_congr
  intro t _
  simp only [Function.comp]
  split <;> rfl

theorem filter_twice (tickets : List (Uuid × Ticket)) :
    (tickets.filter (·.1 ≠ id)).filter (·.1 ≠ id) = tickets.filter (·.1 ≠ id) := by
  rw [List.filter_filter]
  simp only [Bool.and_self]

theorem act_without (p : Pool) (id : Uuid) (a : Action) :
    ((p.dropTicket id).act? a).map (·.dropTicket id) = (p.act? a).map (·.dropTicket id) := by
  cases a with
  | enter other batch =>
    simp only [act?, dropTicket, Pool.enter, Option.map_some, filter_twice]
    rfl
  | close =>
    simp only [act?, dropTicket, close, Option.map_some, filter_twice]
  | dropTicket other =>
    simp only [act?, Option.map_some, dropTicket, List.filter_filter, Bool.and_comm,
      Bool.and_self_left]
  | track call | retract call =>
    simp only [act?, track?, retract?, dropTicket]
    split <;> simp only [Option.map_some, setSubmission, filter_twice, Option.map_none]
  | send call =>
    simp only [act?, send?, show (p.dropTicket id).admission = p.admission from rfl]
    simp only [dropTicket]
    split
    · split <;> simp only [Option.map_some, setSubmission, List.filter_cons, filter_twice]
    · rfl
  | deliver w =>
    simp only [act?, deliver?, dropTicket]
    split <;> simp only [Option.map_some, setWorker, tell_filter, filter_twice, Option.map_none]
  | take w | mark w | finish w | record w =>
    simp only [act?, take?, mark?, finish?, record?, dropTicket]
    split <;> simp only [Option.map_some, setWorker, filter_twice, Option.map_none]
  | leave w =>
    simp only [act?, leave?, show (p.dropTicket id).isOpen = p.isOpen from rfl]
    simp only [dropTicket]
    split
    · cases p.isOpen <;> simp [setWorker]
    · rfl
  | join call =>
    simp only [act?, join?, dropTicket]
    split <;> simp only [Option.map_some, filter_twice, Option.map_none]
  | «return» call =>
    have shutdowns : (p.dropTicket id).shutdowns = p.shutdowns := rfl
    have workers : (p.dropTicket id).workers = p.workers := rfl
    simp only [act?, return?, shutdowns, workers]
    split
    · split
      · simp only [Option.map_some, dropTicket, filter_twice]
      · rfl
    · rfl

theorem undrop_act (same : p.dropTicket id = p'.dropTicket id) (a : Action) :
    (p.act? a).map (·.dropTicket id) = (p'.act? a).map (·.dropTicket id) := by
  rw [← act_without, same, act_without]

theorem undrop_same (same : p.dropTicket id = p'.dropTicket id) :
    readings other p watch = readings other p' (undropped id watch) ∧
    (p.run? (actionsIn watch)).map (·.dropTicket id) =
      (p'.run? (actionsIn (undropped id watch))).map (·.dropTicket id) := by
  induction watch generalizing p p' with
  | nil => exact ⟨rfl, congrArg some same⟩
  | cons first rest ih =>
    cases first with
    | look =>
      have tracker : p.tracker = p'.tracker := congrArg (·.tracker) same
      have kept : undropped id (.look :: rest) = .look :: undropped id rest := rfl
      rw [kept, readings, readings, tracker, (ih same).1]
      exact ⟨rfl, (ih same).2⟩
    | act a =>
      have first : actionsIn (.act a :: rest) = a :: actionsIn rest := rfl
      by_cases drop : (Watch.act a).drops id
      · -- the other run does nothing here
        have left : undropped id (.act a :: rest) = undropped id rest := by
          simp only [undropped, List.filter_cons, drop, Bool.not_true, Bool.false_eq_true, if_false]
        obtain rfl : a = .dropTicket id := by
          unfold Watch.drops at drop
          split at drop
          · rename_i action other shape
            obtain rfl := Watch.act.inj shape
            rw [of_decide_eq_true drop]
          · cases drop
        have twice : (p.dropTicket id).dropTicket id = p'.dropTicket id := by
          rw [← same, dropTicket, dropTicket, filter_twice]
        rw [left, first, readings]
        exact ih twice
      · have kept : undropped id (.act a :: rest) = .act a :: undropped id rest := by
          simp only [undropped, List.filter_cons, drop, Bool.not_false, if_true]
        have next := undrop_act same a
        have first' : actionsIn (.act a :: undropped id rest) =
          a :: actionsIn (undropped id rest) := rfl
        rw [kept, first, first', readings, readings, run?, run?]
        cases here : p.act? a with
        | none =>
          rw [here] at next
          rw [Option.map_eq_none_iff.mp next.symm]
          exact ⟨rfl, rfl⟩
        | some q =>
          rw [here] at next
          obtain ⟨q', there, same'⟩ := Option.map_eq_some_iff.mp next.symm
          rw [there]
          exact ih same'.symm

end Drops

/-- What is learned of a job by asking its tracker while `watch` happens, and from its ticket. The
    `past` has led to `p`, and it has become the `story` when `q` is reached. -/
structure Steady (p q : Pool) (past story : List Entry) (job : Job) (watch : List Watch)
    (result : Ended Report) : Prop where
  one : ∀ r, (job, r) ∈ recordedIn story → r = result
  forward : ((readings job.id p watch).destutter (· ≠ ·)).Sublist
    [none, some .queued, some .running, some (outcome result), none]
  accepted : job ∈ acceptedIn past → ((readings job.id p watch).destutter (· ≠ ·)).Sublist
    [some .queued, some .running, some (outcome result), none]
  ready : ∀ report, ticketOf job.id p.tickets = some (.ready report) →
    ∀ state ∈ readings job.id p watch, state = some (.completed report) ∨ state = none
  abandoned : ticketOf job.id p.tickets = some .abandoned →
    ∃ error, outcome result = .failed error ∧
      ∀ state ∈ readings job.id p watch, state = some (.failed error) ∨ state = none
  settled : ∀ ticket, ticketOf job.id p.tickets = some ticket → ticket ≠ .pending →
    (job, result) ∈ recordedIn past ∧
      (ticket = .abandoned ↔ ∃ error, outcome result = .failed error)
  settles : (job, result) ∈ recordedIn past → job.id ∉ droppedIn past →
    ticketOf job.id p.tickets = some (verdict result) ∨
      ∃ w p', p.act? (.deliver w) = some p' ∧ ticketOf job.id p'.tickets = some (verdict result)
  dropping : (∀ id, readings id p watch = readings id p (undropped job.id watch)) ∧
    ∃ q', p.run? (actionsIn (undropped job.id watch)) = some q' ∧
      q'.dropTicket job.id = q.dropTicket job.id

section Steady
variable {p q : Pool} {retained : Nat} {past es : List Entry} {job : Job} {result : Ended Report}
  {calls : List Uuid} {seen : List (Option JobState)}

theorem accepted_along (accepted : job ∈ acceptedIn past)
    (along : Along seen ((life result).drop (progress retained past calls job.id))) :
    Along seen [some .queued, some .running, some (outcome result), none] := by
  have waits : job.id ∈ (acceptedIn past).map Job.id ∨ job.id ∈ calls :=
    Or.inl (List.mem_map_of_mem accepted)
  have begun : 1 ≤ progress retained past calls job.id := by
    unfold progress
    rw [if_pos waits]
    split_ifs <;> decide
  exact along_of_suffix along (List.drop_suffix_drop_left (life result) begun)

theorem recorded_along (recorded : (job, result) ∈ recordedIn past)
    (along : Along seen ((life result).drop (progress retained past calls job.id))) :
    ∀ state ∈ seen, state = some (outcome result) ∨ state = none := by
  have member : job.id ∈ recordedIds past := List.mem_map_of_mem recorded
  have done : 3 ≤ progress retained past calls job.id := by
    unfold progress
    rw [if_pos member]
    split <;> decide
  have rest := along_of_suffix along (List.drop_suffix_drop_left (life result) done)
  intro state read
  simpa [life] using along_subset rest state read

theorem honest_result (acc : Accounts p past) (honest : Honest p past)
    (accepted : job ∈ acceptedIn (past ++ es))
    (distinct : ((acceptedIn (past ++ es)).map Job.id).Nodup)
    (ends : EndsOnly (past ++ es) job.id result) {ticket : Ticket}
    (found : ticketOf job.id p.tickets = some ticket) (settled : ticket ≠ .pending) :
    (job, result) ∈ recordedIn past ∧ ticket = verdict result := by
  obtain ⟨⟨other, result'⟩, delivered, same, rfl⟩ := (honest _ _ found).resolve_left settled
  have early : other ∈ acceptedIn (past ++ es) := by
    rw [acceptedIn, List.filterMap_append]
    exact List.mem_append_left _ (delivered_accepted acc delivered)
  obtain rfl : other = job := List.inj_on_of_nodup_map distinct early accepted same
  have recorded := delivered_recorded acc delivered
  obtain rfl : result' = result := ends_only_before ends _ recorded rfl
  exact ⟨recorded, rfl⟩

end Steady

/-- Asked about a job at any moments of a run, the tracker never goes back, and it agrees with the
    ticket from the moment on at which the ticket tells anything. -/
theorem polls_agree_with_ticket {workers capacity retained : Nat} {acts : List Action} {p q : Pool}
    (watch : List Watch) (job : Job)
    (run : (start workers capacity retained).run? acts = some p)
    (later : p.run? (actionsIn watch) = some q) (fresh : (issued (acts ++ actionsIn watch)).Nodup)
    (accepted : job ∈ acceptedIn
      (chronicle (start workers capacity retained) acts ++ chronicle p (actionsIn watch))) :
    ∃ result, Steady p q (chronicle (start workers capacity retained) acts)
      (chronicle (start workers capacity retained) acts ++ chronicle p (actionsIn watch))
      job watch result := by
  generalize pastIs : chronicle (start workers capacity retained) acts = past at *
  have acc : Accounts p past := pastIs ▸ run_accounts run
  have whole : Accounts q (past ++ chronicle p (actionsIn watch)) :=
    run_keeps step_accounts later past acc
  have honest : Honest p past := pastIs ▸ run_honest run
  have ids : enteredIn (past ++ chronicle p (actionsIn watch)) =
      issued (acts ++ actionsIn watch) := by
    rw [enteredIn, List.filterMap_append, issued, List.filterMap_append, ← pastIs]
    exact congrArg₂ _ (entered_chronicle run) (entered_chronicle later)
  have distinct : (issued acts).Nodup := by
    rw [issued, List.filterMap_append] at fresh
    exact fresh.of_append_left
  have tracks : Tracks p past := pastIs ▸ run_tracks run distinct
  have tickets : Tickets p past := pastIs ▸ run_tickets run distinct
  rw [← ids] at fresh
  generalize esIs : chronicle p (actionsIn watch) = es at *
  obtain ⟨result, ends⟩ := ends_only job.id (recorded_nodup whole fresh)
  have unrefused : job.id ∉ refusedIn es := fun refused => by
    refine refused_not_accepted whole fresh ?_ (List.mem_map_of_mem accepted)
    rw [refusedIn, List.filterMap_append]
    exact List.mem_append_right _ refused
  have along : Along (readings job.id p watch)
      ((life result).drop (progress p.tracker.retained past (trackedCalls p) job.id)) := by
    subst esIs
    exact readings_along acc tracks fresh unrefused ends later
  have told : ∀ {ticket}, ticketOf job.id p.tickets = some ticket → ticket ≠ .pending →
      (job, result) ∈ recordedIn past ∧ ticket = verdict result :=
    honest_result acc honest accepted (accepted_nodup whole fresh) ends
  have without : ∀ other, readings other p watch = readings other p (undropped job.id watch) ∧
      (p.run? (actionsIn watch)).map (·.dropTicket job.id) =
        (p.run? (actionsIn (undropped job.id watch))).map (·.dropTicket job.id) :=
    fun _ => undrop_same rfl
  refine ⟨result, ?_⟩
  constructor
  case one => exact fun r recorded => ends _ recorded rfl
  case forward => exact along_destutter (along_of_suffix along (List.drop_suffix _ _))
  case accepted => exact fun early => along_destutter (accepted_along early along)
  case ready =>
    intro report found
    obtain ⟨recorded, verdictIs⟩ := told found (by simp)
    cases result with
    | returned r =>
      obtain rfl : report = r := by simpa [verdict] using verdictIs
      exact recorded_along recorded along
    | panicked panic => cases verdictIs
  case abandoned =>
    intro found
    obtain ⟨recorded, verdictIs⟩ := told found (by simp)
    obtain ⟨error, failed⟩ := verdict_abandoned_iff.mp verdictIs.symm
    exact ⟨error, failed, failed ▸ recorded_along recorded along⟩
  case settled =>
    intro ticket found notPending
    obtain ⟨recorded, rfl⟩ := told found notPending
    exact ⟨recorded, verdict_abandoned_iff⟩
  case settles => exact fun recorded kept => recorded_told_next acc tickets recorded kept
  case dropping =>
    have sameRun := (without job.id).2
    rw [later] at sameRun
    exact ⟨fun other => (without other).1, Option.map_eq_some_iff.mp sameRun.symm⟩

/-- Two jobs for one worker: the first is aborted, and the result of the second pushes it out. -/
def twoCalls : List Action :=
  [.enter (Uuid.ofNat 1) untagged, .track 0, .send 0,
    .enter (Uuid.ofNat 2) untagged, .track 1, .send 1,
    .take 0, .mark 0, .finish 0 (.panicked (.text "over")), .record 0, .deliver 0]

def secondCall : List Watch :=
  [.look, .act (.dropTicket (Uuid.ofNat 1)), .act (.take 0), .look, .act (.mark 0),
    .act (.finish 0 (.panicked .other)), .act (.record 0), .look]

theorem polls_agree_with_ticket_of_two : ∃ p q,
    (start 1 2 1).run? twoCalls = some p ∧ p.run? (actionsIn secondCall) = some q ∧
    (issued (twoCalls ++ actionsIn secondCall)).Nodup ∧
    ticketOf (Uuid.ofNat 1) p.tickets = some .abandoned ∧
    (∃ job result, job.id = Uuid.ofNat 1 ∧ Steady p q (chronicle (start 1 2 1) twoCalls)
      (chronicle (start 1 2 1) twoCalls ++ chronicle p (actionsIn secondCall))
      job secondCall result) ∧
    ∃ error, readings (Uuid.ofNat 1) p secondCall =
      [some (.failed error), some (.failed error), none] := by
  have run : (start 1 2 1).run? twoCalls = some _ := rfl
  obtain ⟨result, steady⟩ := polls_agree_with_ticket secondCall ⟨Uuid.ofNat 1, untagged⟩ run rfl
    (by decide) List.mem_cons_self
  exact ⟨_, _, run, rfl, by decide, rfl, ⟨_, result, rfl, steady⟩, _, rfl⟩

end CommandGateway.Pool
