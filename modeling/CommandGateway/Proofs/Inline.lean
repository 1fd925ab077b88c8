import CommandGateway.Pool.Basic
import CommandGateway.Proofs.Say

/- Work that is done at once, one piece after the other. Checking and dispatching request bodies in
   this way comes to the same as dispatching only the batches of those that hold one. -/
namespace CommandGateway

open Pool

variable {σ H α β : Type}

def runAll (a : Accessor σ H) : List (Work H α) → List α × List (Happening H) × Accessor σ H
  | [] => ([], [], a)
  | work :: rest =>
    let (result, seen, a) := work.run a
    let (results, later, a) := runAll a rest
    (result :: results, seen ++ later, a)

def Happening.isCall (happening : Happening H) : Bool := happening.event?.isNone

def calls (seen : List (Happening H)) : List (Happening H) := seen.filter Happening.isCall

theorem calls_append (first second : List (Happening H)) :
    calls (first ++ second) = calls first ++ calls second := List.filter_append ..

section Runs
variable {a : Accessor σ H}

theorem run_onto_past (work : Work H α) (past : List (Happening H)) :
    work.runOnto past a =
      ((work.runOnto [] a).1, (work.runOnto [] a).2.1 ++ past, (work.runOnto [] a).2.2) := by
  induction work generalizing past a with
  | done result => rfl
  | log event next ih =>
    simp only [Work.runOnto]
    rw [ih (.logged event :: past), ih [.logged event]]
    simp
  | acquire service next ih =>
    simp only [Work.runOnto]
    rw [ih _ ((a.acquire service).2.1.reverse ++ past),
      ih _ ((a.acquire service).2.1.reverse ++ [])]
    simp
  | speak handle text next ih =>
    simp only [Work.runOnto]
    rw [ih _ ((a.speak handle text).2.1.reverse ++ past),
      ih _ ((a.speak handle text).2.1.reverse ++ [])]
    simp

theorem run_onto_eq (work : Work H α) (past : List (Happening H)) :
    work.runOnto past a = ((work.run a).1, (work.run a).2.1.reverse ++ past, (work.run a).2.2) := by
  rw [run_onto_past]
  simp [Work.run]

theorem run_log (event : Event) (next : Work H α) :
    (Work.log event next).run a =
      ((next.run a).1, .logged event :: (next.run a).2.1, (next.run a).2.2) := by
  simp only [Work.run, Work.runOnto]
  rw [run_onto_past]
  simp

theorem run_acquire (service : String) (next : Reply (Option H) → Work H α) :
    (Work.acquire service next).run a =
      (((next (a.acquire service).1).run (a.acquire service).2.2).1,
        (a.acquire service).2.1 ++ ((next (a.acquire service).1).run (a.acquire service).2.2).2.1,
        ((next (a.acquire service).1).run (a.acquire service).2.2).2.2) := by
  simp only [Work.run, Work.runOnto]
  rw [run_onto_past]
  simp

theorem run_speak (handle : H) (text : String) (next : Reply Unit → Work H α) :
    (Work.speak handle text next).run a =
      (((next (a.speak handle text).1).run (a.speak handle text).2.2).1,
        (a.speak handle text).2.1 ++
          ((next (a.speak handle text).1).run (a.speak handle text).2.2).2.1,
        ((next (a.speak handle text).1).run (a.speak handle text).2.2).2.2) := by
  simp only [Work.run, Work.runOnto]
  rw [run_onto_past]
  simp

theorem run_onto_bind (work : Work H α) (f : α → Work H β) (past : List (Happening H)) :
    (work.bind f).runOnto past a =
      (f (work.runOnto past a).1).runOnto (work.runOnto past a).2.1 (work.runOnto past a).2.2 := by
  induction work generalizing past a with
  | done result => rfl
  | log event next ih => exact ih _
  | acquire service next ih => exact ih _ _
  | speak handle text next ih => exact ih _ _

theorem run_all_append (first second : List (Work H α)) :
    runAll a (first ++ second) =
      ((runAll a first).1 ++ (runAll (runAll a first).2.2 second).1,
        (runAll a first).2.1 ++ (runAll (runAll a first).2.2 second).2.1,
        (runAll (runAll a first).2.2 second).2.2) := by
  induction first generalizing a with
  | nil => rfl
  | cons work rest ih => simp [runAll, ih]

theorem run_all_length (works : List (Work H α)) : (runAll a works).1.length = works.length := by
  induction works generalizing a with
  | nil => rfl
  | cons work rest ih => simp [runAll, ih]

end Runs

def jobsOf (arrivals : List (Uuid × Bytes)) : List Job :=
  arrivals.filterMap fun arrival => (Batch.ofBytes arrival.2).toOption.map (⟨arrival.1, ·⟩)

def ranJobs (registry : Registry H) (first : Accessor σ H) (jobs : List Job) :
    List (Ended Report) × List (Happening H) × Accessor σ H :=
  runAll first (jobs.map fun job => dispatch registry job.batch)

def ranBodies (registry : Registry H) (first : Accessor σ H) (arrivals : List (Uuid × Bytes)) :
    List (Ended DispatchOutcome) × List (Happening H) × Accessor σ H :=
  runAll first (arrivals.map fun arrival => dispatchPayload registry arrival.2)

/-- What bodies are answered with, next to what their jobs come to: the same batches are refused for
    the same reasons, and the others have the same reports. -/
inductive Matched : List (Uuid × Bytes) → List (Ended DispatchOutcome) →
    List (Job × Ended Report) → Prop
  | nil : Matched [] [] []
  | rejected (id : Uuid) (body : Bytes) (e : BatchError) (refused : Batch.ofBytes body = .error e)
      {arrivals : List (Uuid × Bytes)} {outcomes : List (Ended DispatchOutcome)}
      {results : List (Job × Ended Report)} (rest : Matched arrivals outcomes results) :
      Matched ((id, body) :: arrivals) (.returned (.rejected e) :: outcomes) results
  | accepted (id : Uuid) (body : Bytes) (batch : Batch) (report : Report)
      (held : Batch.ofBytes body = .ok batch)
      {arrivals : List (Uuid × Bytes)} {outcomes : List (Ended DispatchOutcome)}
      {results : List (Job × Ended Report)} (rest : Matched arrivals outcomes results) :
      Matched ((id, body) :: arrivals) (.returned (.accepted report) :: outcomes)
        ((⟨id, batch⟩, .returned report) :: results)

theorem matched_returned {arrivals : List (Uuid × Bytes)}
    {outcomes : List (Ended DispatchOutcome)} {results : List (Job × Ended Report)}
    (matched : Matched arrivals outcomes results) :
    ∀ r ∈ results, ∃ report, r.2 = .returned report := by
  induction matched with
  | nil => simp
  | rejected id body e refused rest ih => exact ih
  | accepted id body batch report held rest ih =>
    exact List.forall_mem_cons.mpr ⟨⟨report, rfl⟩, ih⟩

section Payloads
variable {registry : Registry H} {service : String} {a : Accessor σ H} {body : Bytes}

theorem rejected_run {e : BatchError} (refused : Batch.ofBytes body = .error e) :
    (dispatchPayload registry body).run a =
      (.returned (.rejected e), [.logged (rejectedEvent e)], a) := by
  simp only [dispatchPayload, refused]
  rfl

theorem accepted_run {batch : Batch} {report : Report} (held : Batch.ofBytes body = .ok batch)
    (returned : ((dispatch registry batch).run a).1 = .returned report) :
    (dispatchPayload registry body).run a =
      (.returned (.accepted report), ((dispatch registry batch).run a).2) := by
  have returned : ((dispatch registry batch).runOnto [] a).1 = .returned report := returned
  simp only [dispatchPayload, held, Work.run, run_onto_bind, returned, Work.runOnto]

theorem standard_returns (service : String) (a : Accessor σ H) (batch : Batch) :
    ∃ report, ((dispatch (.standard service) batch).run a).1 = .returned report := by
  obtain ⟨deeds, course⟩ := run_can_end (dispatch (.standard service) batch) a
  obtain ⟨attempts, report, same, -⟩ :=
    dispatch_faithful (standard_gives_futures batch.commands) course
  exact ⟨report, same⟩

/-- By induction on the bodies: the robot is in the same state before each. -/
theorem payloads_matched (service : String) (a : Accessor σ H) (arrivals : List (Uuid × Bytes)) :
    Matched arrivals (ranBodies (.standard service) a arrivals).1
      ((jobsOf arrivals).zip (ranJobs (.standard service) a (jobsOf arrivals)).1) ∧
    calls (ranBodies (.standard service) a arrivals).2.1 =
      calls (ranJobs (.standard service) a (jobsOf arrivals)).2.1 ∧
    (ranBodies (.standard service) a arrivals).2.2 =
      (ranJobs (.standard service) a (jobsOf arrivals)).2.2 := by
  simp only [ranBodies, ranJobs]
  induction arrivals generalizing a with
  | nil => exact ⟨.nil, rfl, rfl⟩
  | cons arrival rest ih =>
    obtain ⟨id, body⟩ := arrival
    cases verdict : Batch.ofBytes body with
    | error e =>
      have skipped : jobsOf ((id, body) :: rest) = jobsOf rest := by
        simp [jobsOf, verdict, Except.toOption]
      obtain ⟨matched, same, left⟩ := ih (a := a)
      simp only [List.map_cons, runAll, rejected_run verdict, skipped]
      refine ⟨.rejected id body e verdict matched, ?_, left⟩
      rw [calls_append, same]
      rfl
    | ok batch =>
      have added : jobsOf ((id, body) :: rest) = ⟨id, batch⟩ :: jobsOf rest := by
        simp [jobsOf, verdict, Except.toOption]
      obtain ⟨report, returned⟩ := standard_returns service a batch
      obtain ⟨matched, same, left⟩ :=
        ih (a := ((dispatch (.standard service) batch).run a).2.2)
      simp only [List.map_cons, runAll, accepted_run verdict returned, added, List.zip_cons_cons,
        returned]
      refine ⟨.accepted id body batch report verdict matched, ?_, left⟩
      rw [calls_append, calls_append, same]

end Payloads
end CommandGateway
