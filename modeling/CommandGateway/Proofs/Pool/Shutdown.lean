import CommandGateway.Proofs.Pool.Truth

/- How a pool comes to its end. A worker goes only when nothing can come any more, one call for
   shutdown waits for all of them, and so nothing that was accepted is left when it returns. -/
namespace CommandGateway.Pool

def droppedIn (past : List Entry) : List Uuid :=
  past.filterMap fun | .dropped id => some id | _ => none

def tookOverIn (past : List Entry) : List Nat :=
  past.filterMap fun | .tookOver call => some call | _ => none

def Dry (p : Pool) : Prop := p.isOpen = false ∧ p.queue = []

/-- Every worker that has gone has left nothing behind. -/
def NoneLeftEarly (p : Pool) : Prop := ∀ w : Nat, p.workers[w]? = some .gone → Dry p

/-- Who waits for the workers: nobody yet, or one call and no other. -/
inductive Handover (p : Pool) (past : List Entry) : Prop where
  | nobody (none : tookOverIn past = []) (left : p.joinable = List.range p.workers.length)
      (some : p.workers ≠ []) (closed : ∀ s ∈ p.shutdowns, s = .closed)
  | joining (call : Nat) (one : tookOverIn past = [call]) (left : p.joinable = [])
      (found : p.shutdowns[call]? = some (.joining (List.range p.workers.length)))
  | returned (call : Nat) (one : tookOverIn past = [call]) (left : p.joinable = [])
      (found : p.shutdowns[call]? = some .returned) (gone : ∀ phase ∈ p.workers, phase = .gone)

structure Tickets (p : Pool) (past : List Entry) : Prop where
  held : ∀ job ∈ acceptedIn past, job.id ∉ droppedIn past → job.id ∈ p.tickets.map Prod.fst
  told : ∀ job result, (job, result) ∈ deliveredIn past → job.id ∉ droppedIn past →
    ticketOf job.id p.tickets = some (verdict result)

section Dry
variable {p q : Pool} {a : Action} {es past : List Entry}

theorem is_open_eq_false_iff :
    p.isOpen = false ↔ p.accepting = false ∧ ∀ s ∈ p.submissions, s.hasReturned = true := by
  simp [isOpen]

theorem step_dry (step : Step p a es q) (dry : Dry p) : Dry q := by
  obtain ⟨shut, drained⟩ := dry
  obtain ⟨closed, returned⟩ := is_open_eq_false_iff.mp shut
  cases step with
  | enterOpen id batch accepting => simp [closed] at accepting
  | enterClosed id batch _ =>
    refine ⟨is_open_eq_false_iff.mpr ⟨closed, ?_⟩, drained⟩
    intro s member
    rcases List.mem_append.mp member with before | last
    · exact returned s before
    · exact List.mem_singleton.mp last ▸ rfl
  | track call job found => cases returned _ (List.mem_of_getElem? found)
  | accept call job found admitted => cases returned _ (List.mem_of_getElem? found)
  | refuse call job e found full => cases returned _ (List.mem_of_getElem? found)
  | retract call job e found => cases returned _ (List.mem_of_getElem? found)
  | take w job rest idle head => simp [drained] at head
  | close => exact ⟨is_open_eq_false_iff.mpr ⟨rfl, returned⟩, drained⟩
  | _ => exact ⟨shut, drained⟩

theorem step_none_left_early (step : Step p a es q) (none : NoneLeftEarly p) :
    NoneLeftEarly q := by
  intro w gone
  have before : p.workers[w]? = some .gone → Dry q := fun gone => step_dry step (none w gone)
  cases step with
  | leave w' idle drained shut => exact ⟨shut, drained⟩
  | take | mark | finish | record | deliver => exact before (get_of_set (by simp) gone)
  | _ => exact before gone

theorem start_none_left_early (workers capacity retained : Nat) :
    NoneLeftEarly (start workers capacity retained) := by
  intro w gone
  simp [start, List.getElem?_replicate] at gone

end Dry

section Handover
variable {p q : Pool} {a : Action} {es past : List Entry}

theorem handover_of_same (handed : Handover p past) (entries : tookOverIn es = [])
    (left : q.joinable = p.joinable) (shutdowns : q.shutdowns = p.shutdowns)
    (count : q.workers.length = p.workers.length)
    (gone : (∀ phase ∈ p.workers, phase = .gone) → ∀ phase ∈ q.workers, phase = .gone) :
    Handover q (past ++ es) := by
  have same : tookOverIn (past ++ es) = tookOverIn past := by
    simpa [tookOverIn] using entries
  cases handed with
  | nobody none all some closed =>
    refine .nobody (same.trans none) (by rw [left, all, count]) ?_ (shutdowns ▸ closed)
    exact List.ne_nil_of_length_pos (count ▸ List.length_pos_iff.mpr some)
  | joining call one none found =>
    exact .joining call (same.trans one) (left.trans none) (by rw [shutdowns, count, found])
  | returned call one none found all =>
    exact .returned call (same.trans one) (left.trans none) (shutdowns ▸ found) (gone all)

theorem worker_step_handover {w : Nat} {before after : Phase} (handed : Handover p past)
    (entries : tookOverIn es = []) (left : q.joinable = p.joinable)
    (shutdowns : q.shutdowns = p.shutdowns) (workers : q.workers = p.workers.set w after)
    (found : p.workers[w]? = some before) (present : before ≠ .gone) :
    Handover q (past ++ es) := by
  refine handover_of_same handed entries left shutdowns (by rw [workers, List.length_set]) ?_
  intro gone
  exact absurd (gone before (List.mem_of_getElem? found)) present

theorem close_handover (handed : Handover p past) :
    Handover { p with accepting := false, shutdowns := p.shutdowns ++ [.closed] } (past ++ []) := by
  rw [List.append_nil]
  have bound : ∀ {call : Nat} {s : Shutdown}, p.shutdowns[call]? = some s →
      call < p.shutdowns.length := fun found => (List.getElem?_eq_some_iff.mp found).1
  cases handed with
  | nobody none all some closed =>
    refine .nobody none all some ?_
    intro s member
    rcases List.mem_append.mp member with before | last
    · exact closed s before
    · exact List.mem_singleton.mp last
  | joining call one none found =>
    exact .joining call one none (List.getElem?_append_left (bound found) ▸ found)
  | returned call one none found gone =>
    exact .returned call one none (List.getElem?_append_left (bound found) ▸ found) gone

theorem take_over_handover {call : Nat} (handed : Handover p past)
    (found : p.shutdowns[call]? = some .closed) (left : p.joinable ≠ []) :
    Handover { p with
      joinable := [], shutdowns := p.shutdowns.set call (.joining p.joinable) }
      (past ++ [.tookOver call]) := by
  cases handed with
  | nobody none all some closed =>
    refine .joining call ?_ rfl ?_
    · simpa [tookOverIn] using none
    · simp [(List.getElem?_eq_some_iff.mp found).1, all]
  | joining _ _ none | returned _ _ none => exact absurd none left

theorem join_late_handover {call : Nat} (handed : Handover p past)
    (found : p.shutdowns[call]? = some .closed) (left : p.joinable = []) :
    Handover { p with shutdowns := p.shutdowns.set call (.joining []) } (past ++ []) := by
  rw [List.append_nil]
  cases handed with
  | nobody none all some closed =>
    rw [left] at all
    have empty : p.workers.length = 0 := by simpa using all.symm
    exact absurd (List.length_eq_zero_iff.mp empty) some
  | joining other one none waits =>
    exact .joining other one none (get_set_of_get found (by simp) waits)
  | returned other one none done gone =>
    exact .returned other one none (get_set_of_get found (by simp) done) gone

theorem return_handover {call : Nat} {workers : List Nat} (handed : Handover p past)
    (found : p.shutdowns[call]? = some (.joining workers))
    (all : ∀ w ∈ workers, p.workers[w]? = some .gone) :
    Handover { p with shutdowns := p.shutdowns.set call .returned } (past ++ []) := by
  rw [List.append_nil]
  cases handed with
  | nobody none left some closed => cases closed _ (List.mem_of_getElem? found)
  | joining other one none waits =>
    by_cases same : call = other
    · subst same
      obtain rfl : workers = List.range p.workers.length := by
        simpa using found.symm.trans waits
      refine .returned call one none ?_ ?_
      · simp [(List.getElem?_eq_some_iff.mp found).1]
      · intro phase member
        obtain ⟨w, bound, here⟩ := List.getElem_of_mem member
        have gone := all w (List.mem_range.mpr bound)
        rw [List.getElem?_eq_getElem bound, here] at gone
        exact Option.some.inj gone
    · refine .joining other one none ?_
      simpa [List.getElem?_set_ne same] using waits
  | returned other one none done gone =>
    exact .returned other one none (get_set_of_get found (by simp) done) gone

theorem step_handover (step : Step p a es q) (handed : Handover p past) :
    Handover q (past ++ es) := by
  cases step with
  | take w job rest idle head => exact worker_step_handover handed rfl rfl rfl rfl idle (by simp)
  | leave w idle drained shut => exact worker_step_handover handed rfl rfl rfl rfl idle (by simp)
  | mark w job found => exact worker_step_handover handed rfl rfl rfl rfl found (by simp)
  | finish w job result found => exact worker_step_handover handed rfl rfl rfl rfl found (by simp)
  | record w job result found => exact worker_step_handover handed rfl rfl rfl rfl found (by simp)
  | deliver w job result found => exact worker_step_handover handed rfl rfl rfl rfl found (by simp)
  | close => exact close_handover handed
  | takeOver call found left => exact take_over_handover handed found left
  | joinLate call found left => exact join_late_handover handed found left
  | «return» call workers found all => exact return_handover handed found all
  | _ => exact handover_of_same handed rfl rfl rfl rfl id

theorem start_handover (workers capacity retained : Nat) :
    Handover (start workers capacity retained) [] := by
  refine .nobody rfl ?_ ?_ ?_
  · simp [start]
  · simp [start]
  · simp [start]

end Handover

section Tickets
variable {p q : Pool} {a : Action} {es past : List Entry} {id : Uuid} {verdict : Ticket}
  {tickets : List (Uuid × Ticket)}

theorem ticket_of_filter (other : Uuid) :
    ticketOf id (tickets.filter (·.1 ≠ other)) =
      if id = other then none else ticketOf id tickets := by
  induction tickets with
  | nil => simp [ticketOf]
  | cons t rest ih =>
    obtain ⟨name, ticket⟩ := t
    simp only [ne_eq, decide_not] at ih ⊢
    by_cases drop : name = other
    · subst drop
      by_cases same : id = name
      · subst same; simp [ih]
      · simp [ih, same, ticketOf, Ne.symm same]
    · by_cases same : id = other
      · subst same
        simp [ih, drop, ticketOf]
      · simp [ih, drop, ticketOf, same]

theorem ticket_of_tell (name : Uuid) :
    ticketOf id (tell name verdict tickets) =
      if id = name then (ticketOf id tickets).map fun _ => verdict else ticketOf id tickets := by
  induction tickets with
  | nil => simp [ticketOf, tell]
  | cons t rest ih =>
    obtain ⟨holder, ticket⟩ := t
    simp only [tell] at ih
    by_cases here : holder = name
    · by_cases same : id = name
      · subst here same; simp [tell, ticketOf]
      · subst here; simp [tell, ticketOf, ih, same, Ne.symm same]
    · by_cases same : id = name
      · subst same; simp [tell, ticketOf, ih, here]
      · simp [tell, ticketOf, ih, here, same]

theorem tell_ids (name : Uuid) :
    (tell name verdict tickets).map Prod.fst = tickets.map Prod.fst := by
  simp only [tell, List.map_map]
  apply List.map_congr_left
  intro t _
  simp only [Function.comp]
  split <;> rfl

theorem ticket_of_held (held : id ∈ tickets.map Prod.fst) :
    ∃ ticket, ticketOf id tickets = some ticket := by
  induction tickets with
  | nil => simp at held
  | cons t rest ih =>
    obtain ⟨name, ticket⟩ := t
    by_cases same : name = id
    · exact ⟨ticket, by simp [ticketOf, same]⟩
    · simp only [List.map_cons, List.mem_cons, Ne.symm same, false_or] at held
      simpa [ticketOf, same] using ih held

end Tickets

section TicketSteps
variable {p q : Pool} {a : Action} {es past : List Entry} {job : Job} {result : Ended Report}

theorem delivered_recorded (acc : Accounts p past) (delivered : (job, result) ∈ deliveredIn past) :
    (job, result) ∈ recordedIn past :=
  acc.recorded.mem_iff.mpr (List.mem_append_left _ delivered)

theorem delivered_accepted (acc : Accounts p past) (delivered : (job, result) ∈ deliveredIn past) :
    job ∈ acceptedIn past :=
  dispatched_accepted acc (recorded_dispatched acc (delivered_recorded acc delivered))

theorem recorded_not_delivered {w : Nat} {other : Job} {earlier : Ended Report}
    (acc : Accounts p past) (fresh : (enteredIn past).Nodup)
    (found : p.workers[w]? = some (.recorded job result))
    (delivered : (other, earlier) ∈ deliveredIn past) : other.id ≠ job.id := by
  have ids := recorded_nodup acc fresh
  rw [recordedIds, (acc.recorded.map fun r => r.1.id).nodup_iff, List.map_append] at ids
  have here : (job, result) ∈ p.workers.filterMap Phase.recorded? :=
    List.mem_filterMap.mpr ⟨_, List.mem_of_getElem? found, rfl⟩
  exact (List.nodup_append.mp ids).2.2 _ (List.mem_map_of_mem delivered) _
    (List.mem_map_of_mem (f := fun r : Job × Ended Report => r.1.id) here)

theorem tickets_of_same (held : Tickets p past) (same : q.tickets = p.tickets)
    (accepted : acceptedIn es = []) (dropped : droppedIn es = [])
    (delivered : deliveredIn es = []) : Tickets q (past ++ es) := by
  have accepted' : acceptedIn (past ++ es) = acceptedIn past := by
    simpa [acceptedIn] using accepted
  have dropped' : droppedIn (past ++ es) = droppedIn past := by
    simpa [droppedIn] using dropped
  have delivered' : deliveredIn (past ++ es) = deliveredIn past := by
    simpa [deliveredIn] using delivered
  constructor
  · rw [same, accepted', dropped']
    exact held.held
  · rw [same, delivered', dropped']
    exact held.told

theorem accept_tickets {call : Nat} (acc : Accounts p past) (fresh : (enteredIn past).Nodup)
    (found : p.submissions[call]? = some (.tracked job)) (tickets : Tickets p past)
    (new : q.tickets = (job.id, .pending) :: p.tickets) :
    Tickets q (past ++ [.accepted job]) := by
  have inside : job.id ∈ underWay p :=
    List.mem_filterMap.mpr ⟨_, List.mem_of_getElem? found, rfl⟩
  have unaccepted := (under_way_not_answered acc fresh inside).2
  have accepted : acceptedIn (past ++ [.accepted job]) = acceptedIn past ++ [job] := by
    simp [acceptedIn]
  have dropped : droppedIn (past ++ [.accepted job]) = droppedIn past := by simp [droppedIn]
  have delivered : deliveredIn (past ++ [.accepted job]) = deliveredIn past := by
    simp [deliveredIn]
  constructor
  · intro other member kept
    rw [new, List.map_cons]
    rw [accepted, List.mem_append, List.mem_singleton] at member
    rw [dropped] at kept
    rcases member with before | rfl
    · exact List.mem_cons_of_mem _ (tickets.held other before kept)
    · exact List.mem_cons_self
  · intro other result member kept
    rw [delivered] at member
    rw [dropped] at kept
    have apart : job.id ≠ other.id := fun same =>
      unaccepted (same ▸ List.mem_map_of_mem (delivered_accepted acc member))
    rw [new, ticketOf, if_neg apart]
    exact tickets.told other result member kept

theorem drop_tickets {id : Uuid} (tickets : Tickets p past)
    (rest : q.tickets = p.tickets.filter (·.1 ≠ id)) : Tickets q (past ++ [.dropped id]) := by
  have accepted : acceptedIn (past ++ [.dropped id]) = acceptedIn past := by simp [acceptedIn]
  have dropped : droppedIn (past ++ [.dropped id]) = droppedIn past ++ [id] := by
    simp [droppedIn]
  have delivered : deliveredIn (past ++ [.dropped id]) = deliveredIn past := by simp [deliveredIn]
  constructor
  · intro job member kept
    rw [accepted] at member
    rw [dropped, List.mem_append, List.mem_singleton, not_or] at kept
    obtain ⟨t, here, same⟩ := List.mem_map.mp (tickets.held job member kept.1)
    rw [rest]
    refine List.mem_map.mpr ⟨t, List.mem_filter.mpr ⟨here, ?_⟩, same⟩
    simpa [same] using kept.2
  · intro job result member kept
    rw [delivered] at member
    rw [dropped, List.mem_append, List.mem_singleton, not_or] at kept
    rw [rest, ticket_of_filter, if_neg kept.2]
    exact tickets.told job result member kept.1

theorem deliver_tickets {w : Nat} (acc : Accounts p past) (fresh : (enteredIn past).Nodup)
    (found : p.workers[w]? = some (.recorded job result)) (tickets : Tickets p past)
    (told : q.tickets = tell job.id (verdict result) p.tickets) :
    Tickets q (past ++ [.delivered job result]) := by
  have accepted : acceptedIn (past ++ [.delivered job result]) = acceptedIn past := by
    simp [acceptedIn]
  have dropped : droppedIn (past ++ [.delivered job result]) = droppedIn past := by
    simp [droppedIn]
  have delivered : deliveredIn (past ++ [.delivered job result]) =
      deliveredIn past ++ [(job, result)] := by simp [deliveredIn]
  have recorded : (job, result) ∈ recordedIn past := by
    refine acc.recorded.mem_iff.mpr (List.mem_append_right _ ?_)
    exact List.mem_filterMap.mpr ⟨_, List.mem_of_getElem? found, rfl⟩
  constructor
  · intro other member kept
    rw [accepted] at member
    rw [dropped] at kept
    rw [told, tell_ids]
    exact tickets.held other member kept
  · intro other earlier member kept
    rw [delivered, List.mem_append, List.mem_singleton] at member
    rw [dropped] at kept
    rw [told, ticket_of_tell]
    rcases member with before | new
    · rw [if_neg (recorded_not_delivered acc fresh found before)]
      exact tickets.told other earlier before kept
    · cases new
      have here := dispatched_accepted acc (recorded_dispatched acc recorded)
      obtain ⟨ticket, held⟩ := ticket_of_held (tickets.held job here kept)
      simp [held]

theorem step_tickets (step : Step p a es q) (acc : Accounts p past)
    (fresh : (enteredIn past).Nodup) (tickets : Tickets p past) : Tickets q (past ++ es) := by
  cases step with
  | accept call job found admitted => exact accept_tickets acc fresh found tickets rfl
  | dropHeld id held => exact drop_tickets tickets rfl
  | dropUnheld id unheld =>
    refine tickets_of_same tickets ?_ rfl rfl rfl
    refine List.filter_eq_self.mpr fun t member => ?_
    have other : t.1 ≠ id := fun same => unheld (same ▸ List.mem_map_of_mem member)
    simpa using other
  | deliver w job result found => exact deliver_tickets acc fresh found tickets rfl
  | _ => exact tickets_of_same tickets rfl rfl rfl rfl

theorem start_tickets (workers capacity retained : Nat) :
    Tickets (start workers capacity retained) [] := by
  constructor <;> simp [acceptedIn, deliveredIn]

end TicketSteps

/-- The ticket of a batch, unless it was dropped, and the tracker, as long as it keeps the job, have
    been told what became of the batch. -/
structure Informed (p : Pool) (story : List Entry) (job : Job) (ticket : Ticket)
    (state : JobState) : Prop where
  ticket : job.id ∉ droppedIn story → ticketOf job.id p.tickets = some ticket
  tracker : p.tracker.get? job.id =
    if job.id ∈ newest p.tracker.retained (recordedIds story) then some state else none

/-- Every accepted batch has been dispatched once and its result recorded, as a report or as the
    text of a panic, and no ticket is pending any more unless it was dropped. -/
structure Drained (p : Pool) (story : List Entry) : Prop where
  taken : takenIn story = acceptedIn story
  dispatched : (dispatchedIn story).Perm (acceptedIn story)
  recorded : ((recordedIn story).map Prod.fst).Perm (acceptedIn story)
  completed : ∀ job report, (job, .returned report) ∈ recordedIn story →
    Informed p story job (.ready report) (.completed report)
  failed : ∀ job panic, (job, .panicked panic) ∈ recordedIn story →
    Informed p story job .abandoned (.failed (abortText panic))
  resolved : ∀ job ∈ acceptedIn story, job.id ∉ droppedIn story →
    ticketOf job.id p.tickets = some .abandoned ∨
      ∃ report, ticketOf job.id p.tickets = some (.ready report)

section Drained
variable {p : Pool} {past : List Entry}

theorem all_gone_filter {α : Type} {f : Phase → Option α} {workers : List Phase}
    (nothing : f .gone = none) (gone : ∀ phase ∈ workers, phase = .gone) :
    workers.filterMap f = [] := by
  refine List.filterMap_eq_nil_iff.mpr ?_
  intro phase member
  rw [gone phase member, nothing]

theorem all_gone_drained (acc : Accounts p past) (tracks : Tracks p past)
    (tickets : Tickets p past) (once : (enteredIn past).Nodup) (drained : p.queue = [])
    (gone : ∀ phase ∈ p.workers, phase = .gone) : Drained p past := by
  have queued := acc.queued
  have waiting := acc.waiting
  have running := acc.running
  have recorded := acc.recorded
  rw [drained, List.append_nil] at queued
  rw [all_gone_filter rfl gone, List.append_nil] at waiting running recorded
  have dispatched : (dispatchedIn past).Perm (acceptedIn past) := queued ▸ waiting.symm
  have ended : ((recordedIn past).map Prod.fst).Perm (acceptedIn past) :=
    running.symm.trans dispatched
  have told : ∀ job result, (job, result) ∈ recordedIn past →
      Informed p past job (verdict result) (outcome result) := by
    intro job result member
    constructor
    · exact tickets.told job result (recorded.mem_iff.mp member)
    · rw [tracks.states, told_recorded (recorded_nodup acc once) member]
  constructor
  case taken => exact queued.symm
  case dispatched => exact dispatched
  case recorded => exact ended
  case completed => exact fun job report => told job (.returned report)
  case failed => exact fun job panic => told job (.panicked panic)
  case resolved =>
    intro job accepted kept
    obtain ⟨⟨_, result⟩, member, rfl⟩ := List.mem_map.mp (ended.mem_iff.mpr accepted)
    have ticket := (told _ result member).ticket kept
    cases result with
    | returned report => exact .inr ⟨report, ticket⟩
    | panicked panic => exact .inl ticket

variable {acts : List Action} {workers capacity retained : Nat}

theorem run_none_left_early (run : (start workers capacity retained).run? acts = some p) :
    NoneLeftEarly p :=
  run_keeps_state step_none_left_early run (start_none_left_early workers capacity retained)

theorem run_handover (run : (start workers capacity retained).run? acts = some p) :
    Handover p (chronicle (start workers capacity retained) acts) :=
  run_keeps step_handover run [] (start_handover workers capacity retained)

theorem run_tickets (run : (start workers capacity retained).run? acts = some p)
    (fresh : (issued acts).Nodup) :
    Tickets p (chronicle (start workers capacity retained) acts) :=
  fresh_run_keeps step_tickets run fresh (start_tickets workers capacity retained)

theorem first_return_gone {call : Nat} (handed : Handover p past) (first : call ∈ tookOverIn past)
    (returned : p.shutdowns[call]? = some .returned) : ∀ phase ∈ p.workers, phase = .gone := by
  cases handed with
  | nobody none left some closed => simp [none] at first
  | joining other one left found =>
    obtain rfl : call = other := by simpa [one] using first
    simp [returned] at found
  | returned other one left found gone => exact gone

theorem only_shutdown_first (handed : Handover p past) (only : p.shutdowns = [.returned]) :
    0 ∈ tookOverIn past := by
  cases handed with
  | nobody none left some closed => simp [only] at closed
  | joining other one left found =>
    have member := List.mem_of_getElem? found
    simp [only] at member
  | returned other one left found gone =>
    have bound := (List.getElem?_eq_some_iff.mp found).1
    simp only [only, List.length_singleton] at bound
    simp [one]
    omega

theorem first_return_drains {call : Nat}
    (run : (start workers capacity retained).run? acts = some p) (fresh : (issued acts).Nodup)
    (first : call ∈ tookOverIn (chronicle (start workers capacity retained) acts))
    (returned : p.shutdowns[call]? = some .returned) :
    Drained p (chronicle (start workers capacity retained) acts) := by
  have gone := first_return_gone (run_handover run) first returned
  have count := (run_dimensions run).count
  obtain ⟨phase, one⟩ : ∃ phase, p.workers[0]? = some phase :=
    ⟨_, List.getElem?_eq_getElem (by omega)⟩
  obtain rfl := gone phase (List.mem_of_getElem? one)
  have dry := run_none_left_early run 0 one
  exact all_gone_drained (run_accounts run) (run_tracks run fresh) (run_tickets run fresh)
    ((entered_chronicle run).symm ▸ fresh) dry.2 gone

end Drained
end CommandGateway.Pool
