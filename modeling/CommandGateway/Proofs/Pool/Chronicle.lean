import CommandGateway.Pool.Basic

/- A run of a pool told as a chronicle: every action adds what it brought about. Statements about
   the pool compare its state with the chronicle of the run that led there. What one action can do
   is said once, by `Step`; proofs about runs go through it and never open an action. -/
namespace CommandGateway.Pool

/-- A batch is `dispatched` when its worker starts a dispatch of it. Only a ticket that is held can
    be dropped, and only one call for shutdown finds workers to take over. -/
inductive Entry where
  | entered (id : Uuid)
  | refused (id : Uuid)
  | accepted (job : Job)
  | dropped (id : Uuid)
  | taken (job : Job)
  | dispatched (job : Job)
  | recorded (job : Job) (result : Ended Report)
  | delivered (job : Job) (result : Ended Report)
  | tookOver (call : Nat)

def sendEntries (p : Pool) : Option Submission → List Entry
  | some (.tracked job) =>
    match p.admission with
    | .ok () => [.accepted job]
    | .error _ => []
  | _ => []

def entries (p : Pool) : Action → List Entry
  | .enter id _ => if p.accepting then [.entered id] else [.entered id, .refused id]
  | .track _ => []
  | .send call => sendEntries p p.submissions[call]?
  | .retract call =>
    match p.submissions[call]? with
    | some (.refused job _) => [.refused job.id]
    | _ => []
  | .dropTicket id => if id ∈ p.tickets.map Prod.fst then [.dropped id] else []
  | .take _ => p.queue.head?.toList.map .taken
  | .mark w =>
    match p.workers[w]? with
    | some (.taken job) => [.dispatched job]
    | _ => []
  | .finish _ _ => []
  | .record w =>
    match p.workers[w]? with
    | some (.ended job result) => [.recorded job result]
    | _ => []
  | .deliver w =>
    match p.workers[w]? with
    | some (.recorded job result) => [.delivered job result]
    | _ => []
  | .leave _ => []
  | .close => []
  | .join call => if p.joinable = [] then [] else [.tookOver call]
  | .return _ => []

def chronicle (p : Pool) : List Action → List Entry
  | [] => []
  | a :: rest =>
    match p.act? a with
    | some q => entries p a ++ chronicle q rest
    | none => []

inductive Step (p : Pool) : Action → List Entry → Pool → Prop where
  | enterOpen (id : Uuid) (batch : Batch) (accepting : p.accepting = true) :
      Step p (.enter id batch) [.entered id]
        { p with submissions := p.submissions ++ [.entered ⟨id, batch⟩] }
  | enterClosed (id : Uuid) (batch : Batch) (closed : p.accepting = false) :
      Step p (.enter id batch) [.entered id, .refused id]
        { p with submissions := p.submissions ++ [.returned (.error .closed)] }
  | track (call : Nat) (job : Job) (found : p.submissions[call]? = some (.entered job)) :
      Step p (.track call) []
        { p with
          tracker := p.tracker.set job.id .queued
          submissions := p.submissions.set call (.tracked job) }
  | accept (call : Nat) (job : Job) (found : p.submissions[call]? = some (.tracked job))
      (admitted : p.admission = .ok ()) :
      Step p (.send call) [.accepted job]
        { p with
          queue := p.queue ++ [job]
          tickets := (job.id, .pending) :: p.tickets
          submissions := p.submissions.set call (.returned (.ok ())) }
  | refuse (call : Nat) (job : Job) (e : ExecutorError)
      (found : p.submissions[call]? = some (.tracked job)) (full : p.admission = .error e) :
      Step p (.send call) [] { p with submissions := p.submissions.set call (.refused job e) }
  | retract (call : Nat) (job : Job) (e : ExecutorError)
      (found : p.submissions[call]? = some (.refused job e)) :
      Step p (.retract call) [.refused job.id]
        { p with
          tracker := p.tracker.forget job.id
          submissions := p.submissions.set call (.returned (.error e)) }
  | dropHeld (id : Uuid) (held : id ∈ p.tickets.map Prod.fst) :
      Step p (.dropTicket id) [.dropped id]
        { p with tickets := p.tickets.filter (·.1 ≠ id) }
  | dropUnheld (id : Uuid) (unheld : id ∉ p.tickets.map Prod.fst) :
      Step p (.dropTicket id) [] { p with tickets := p.tickets.filter (·.1 ≠ id) }
  | take (w : Nat) (job : Job) (rest : List Job) (idle : p.workers[w]? = some .idle)
      (head : p.queue = job :: rest) :
      Step p (.take w) [.taken job]
        { p with queue := rest, workers := p.workers.set w (.taken job) }
  | mark (w : Nat) (job : Job) (found : p.workers[w]? = some (.taken job)) :
      Step p (.mark w) [.dispatched job]
        { p with
          tracker := p.tracker.set job.id .running
          workers := p.workers.set w (.running job) }
  | finish (w : Nat) (job : Job) (result : Ended Report)
      (found : p.workers[w]? = some (.running job)) :
      Step p (.finish w result) [] { p with workers := p.workers.set w (.ended job result) }
  | record (w : Nat) (job : Job) (result : Ended Report)
      (found : p.workers[w]? = some (.ended job result)) :
      Step p (.record w) [.recorded job result]
        { p with
          tracker := p.tracker.set job.id (outcome result)
          workers := p.workers.set w (.recorded job result) }
  | deliver (w : Nat) (job : Job) (result : Ended Report)
      (found : p.workers[w]? = some (.recorded job result)) :
      Step p (.deliver w) [.delivered job result]
        { p with
          tickets := tell job.id (verdict result) p.tickets
          workers := p.workers.set w .idle }
  | leave (w : Nat) (idle : p.workers[w]? = some .idle) (drained : p.queue = [])
      (shut : p.isOpen = false) :
      Step p (.leave w) [] { p with workers := p.workers.set w .gone }
  | close :
      Step p .close [] { p with accepting := false, shutdowns := p.shutdowns ++ [.closed] }
  | takeOver (call : Nat) (found : p.shutdowns[call]? = some .closed) (left : p.joinable ≠ []) :
      Step p (.join call) [.tookOver call]
        { p with joinable := [], shutdowns := p.shutdowns.set call (.joining p.joinable) }
  | joinLate (call : Nat) (found : p.shutdowns[call]? = some .closed) (left : p.joinable = []) :
      Step p (.join call) [] { p with shutdowns := p.shutdowns.set call (.joining []) }
  | return (call : Nat) (workers : List Nat)
      (found : p.shutdowns[call]? = some (.joining workers))
      (all : ∀ w ∈ workers, p.workers[w]? = some .gone) :
      Step p (.return call) [] { p with shutdowns := p.shutdowns.set call .returned }

theorem is_gone_iff {phase : Option Phase} : isGone phase = true ↔ phase = some .gone := by
  cases phase with
  | none => simp [isGone]
  | some phase => cases phase <;> simp [isGone]

theorem send_step {p q : Pool} {call : Nat} (h : p.send? call = some q) :
    Step p (.send call) (entries p (.send call)) q := by
  unfold send? at h
  split at h
  · rename_i job found
    simp only [entries, sendEntries, found]
    cases answer : p.admission with
    | ok =>
      simp only [answer] at h
      cases h
      exact Step.accept call job found answer
    | error e =>
      simp only [answer] at h
      cases h
      exact Step.refuse call job e found answer
  · cases h

theorem join_step {p q : Pool} {call : Nat} (h : p.join? call = some q) :
    Step p (.join call) (entries p (.join call)) q := by
  unfold join? at h
  split at h
  · rename_i found
    cases h
    by_cases left : p.joinable = []
    · have step := Step.joinLate call found left
      cases p; simp_all [entries]
    · simp only [entries, left]
      exact Step.takeOver call found left
  · cases h

theorem return_step {p q : Pool} {call : Nat} (h : p.return? call = some q) :
    Step p (.return call) [] q := by
  unfold return? at h
  split at h
  · rename_i workers found
    split at h
    · rename_i all
      cases h
      refine Step.return call workers found ?_
      intro w member
      exact is_gone_iff.mp (List.all_eq_true.mp all w member)
    · cases h
  · cases h

theorem act_step {p q : Pool} {a : Action} (h : p.act? a = some q) : Step p a (entries p a) q := by
  cases a with
  | enter id batch =>
    cases h
    cases accepting : p.accepting with
    | true => simpa [entries, enter, accepting] using Step.enterOpen id batch accepting
    | false => simpa [entries, enter, accepting] using Step.enterClosed id batch accepting
  | track call =>
    simp only [act?, track?] at h
    split at h
    · rename_i job found; cases h; exact Step.track call job found
    · cases h
  | send call => exact send_step h
  | retract call =>
    simp only [act?, retract?] at h
    split at h
    · rename_i job e found
      cases h
      simp only [entries, found]
      exact Step.retract call job e found
    · cases h
  | dropTicket id =>
    cases h
    by_cases held : id ∈ p.tickets.map Prod.fst
    · simp only [entries, if_pos held]
      exact Step.dropHeld id held
    · simp only [entries, if_neg held]
      exact Step.dropUnheld id held
  | take w =>
    simp only [act?, take?] at h
    split at h
    · rename_i job rest idle head
      cases h
      simp only [entries, head]
      exact Step.take w job rest idle head
    · cases h
  | mark w =>
    simp only [act?, mark?] at h
    split at h
    · rename_i job found; cases h; simp only [entries, found]; exact Step.mark w job found
    · cases h
  | finish w result =>
    simp only [act?, finish?] at h
    split at h
    · rename_i job found; cases h; exact Step.finish w job result found
    · cases h
  | record w =>
    simp only [act?, record?] at h
    split at h
    · rename_i job result found
      cases h; simp only [entries, found]; exact Step.record w job result found
    · cases h
  | deliver w =>
    simp only [act?, deliver?] at h
    split at h
    · rename_i job result found
      cases h; simp only [entries, found]; exact Step.deliver w job result found
    · cases h
  | leave w =>
    simp only [act?, leave?] at h
    split at h
    · rename_i idle drained
      split at h
      · cases h
      · rename_i shut
        cases h
        exact Step.leave w idle drained (by simpa using shut)
    · cases h
  | close => cases h; exact Step.close
  | join call => exact join_step h
  | «return» call => exact return_step h

/-- What every step keeps, a run keeps, with the chronicle growing along. -/
theorem run_keeps {Inv : Pool → List Entry → Prop}
    (keeps : ∀ {p q a es past}, Step p a es q → Inv p past → Inv q (past ++ es))
    {p q : Pool} {acts : List Action} (run : p.run? acts = some q) (past : List Entry)
    (start : Inv p past) : Inv q (past ++ chronicle p acts) := by
  induction acts generalizing p past with
  | nil =>
    cases run
    simpa [chronicle] using start
  | cons a rest ih =>
    simp only [run?] at run
    split at run
    · rename_i next possible
      have grown := ih run _ (keeps (act_step possible) start)
      simpa [chronicle, possible] using grown
    · cases run

theorem run_keeps_state {Inv : Pool → Prop}
    (keeps : ∀ {p q a es}, Step p a es q → Inv p → Inv q)
    {p q : Pool} {acts : List Action} (run : p.run? acts = some q) (start : Inv p) : Inv q :=
  run_keeps (fun step inv => keeps step inv) run [] start

end CommandGateway.Pool
