import CommandGateway.Proofs.Engine.Dispatches
import CommandGateway.Proofs.Pool.Lone
import CommandGateway.Proofs.Say
import CommandGateway.Robot.Recording

/- What the robot gets to hear. The journal holds the calls that the robot has seen, and those by
   which it was made to speak are the ones that the log of deeds tells of. So each batch is spoken
   in the order of its commands, whatever is spoken in between for others. -/
namespace CommandGateway.Engine

open Pool

variable {σ H α : Type}

def speechOf : Happening H → Option (Speech H)
  | .spoke handle text reply => some ⟨handle, text, reply⟩
  | _ => none

def heard (s : Scene σ H) : List (Owner × Speech H) :=
  s.journal.reverse.filterMap fun d => (speechOf d.2).map (d.1, ·)

def spokenIn (log : DeedLog H) : List (Owner × Speech H) :=
  log.filterMap fun d => d.2.speech?.map (d.1, ·)

/-- The calls that take a robot from one state to another, each with the answer that it gave. -/
inductive Called (connector : Connector σ H) (first : σ) : List (Happening H) → σ → Prop
  | none : Called connector first [] first
  | logged {seen : List (Happening H)} {robot : σ} (event : Event)
      (before : Called connector first seen robot) :
      Called connector first (seen ++ [.logged event]) robot
  | lookedUp {seen : List (Happening H)} {robot : σ} (service : String)
      (before : Called connector first seen robot) :
      Called connector first (seen ++ [.lookedUp service (connector.lookup service robot).1.1])
        (connector.lookup service robot).2
  | spoke {seen : List (Happening H)} {robot : σ} (handle : H) (text : String)
      (before : Called connector first seen robot) :
      Called connector first (seen ++ [.spoke handle text (connector.speak handle text robot).1])
        (connector.speak handle text robot).2

/-- The journal tells all that the robot has seen, and the log all that it was made to say. -/
structure Overheard (connector : Connector σ H) (robot : σ) (s : Scene σ H) (log : DeedLog H) :
    Prop where
  online : s.accessor.connector = some connector
  seen : Called connector robot (s.journal.reverse.map Prod.snd) s.accessor.robot
  same : heard s = spokenIn log

section Stages
variable {connector : Connector σ H} {robot : σ} {owner : Owner} {s s' : Scene σ H}
  {log : DeedLog H}

theorem called_logged {first current : σ} {seen : List (Happening H)}
    (before : Called connector first seen current) (events : List Event) :
    Called connector first (seen ++ events.map .logged) current := by
  induction events generalizing seen with
  | nil => simpa using before
  | cons event rest ih => simpa using ih (.logged event before)

theorem nothing_spoken (events : List Event) :
    (events.map (.logged (H := H))).filterMap speechOf = [] := by
  simp [List.filterMap_map, Function.comp_def, speechOf]

theorem look_up_mute (a : Accessor σ H) (connector : Connector σ H) (service : String) :
    (a.lookUp connector service).2.1.filterMap speechOf = [] := by
  simp only [Accessor.lookUp, List.cons_append, List.filterMap_cons, List.filterMap_append,
    List.filterMap_nil, nothing_spoken, speechOf, List.append_nil]

theorem heard_enter (seen : List (Happening H)) :
    heard (s.enter owner seen) = heard s ++ (seen.filterMap speechOf).map (owner, ·) := by
  simp [heard, Scene.enter, List.filterMap_map, List.map_filterMap]

theorem spoken_append (more : DeedLog H) :
    spokenIn (log ++ more) = spokenIn log ++ spokenIn more :=
  List.filterMap_append

theorem spoken_own (deeds : List (Deed H)) :
    spokenIn (deeds.map (owner, ·)) = (speeches deeds).map (owner, ·) := by
  simp [spokenIn, speeches, List.filterMap_map, List.map_filterMap]

section Steps
variable {step : Step} {stage stage' : Stage H α}

theorem stepped_called (stepped : Stepped owner s step stage stage' s')
    (online : s.accessor.connector = some connector)
    (before : Called connector robot (s.journal.reverse.map Prod.snd) s.accessor.robot) :
    Called connector robot (s'.journal.reverse.map Prod.snd) s'.accessor.robot := by
  cases stepped with
  | log event next => simpa [Scene.enter] using before.logged event
  | offline service next none => simp [online] at none
  | speak handle text next =>
    simpa [Scene.speak, Accessor.speak, online, Scene.enter] using before.spoke handle text
  | lookUp service next other online' unknown free =>
    obtain rfl : connector = other := by simpa [online] using online'
    have called := (called_logged (before.logged (lookupEvent service))
      (connector.lookup service s.accessor.robot).1.2).lookedUp service
    simpa [Scene.lookUp, Accessor.lookUp, Scene.enter, Function.comp_def] using called
  | answer service reply next =>
    cases reply with
    | returned result => cases result <;> exact before
    | panicked p => exact before
  | _ => exact before

theorem stepped_heard (stepped : Stepped owner s step stage stage' s')
    (online : s.accessor.connector = some connector) :
    heard s' = heard s ++ (speeches (stage.deeds s step)).map (owner, ·) := by
  cases stepped with
  | offline service next none => simp [online] at none
  | log event next => rw [heard_enter]; rfl
  | speak handle text next =>
    simp only [Scene.speak, heard_enter]
    simp [Stage.deeds, Accessor.speak, online, speeches, speechOf, Deed.speech?, heard]
  | known service next handle _ kept => simp [Stage.deeds, online, kept, speeches, Deed.speech?]
  | wait service next _ unknown => simp [Stage.deeds, online, unknown, speeches]
  | learn service next handle _ kept => simp [Stage.deeds, kept, speeches, Deed.speech?]
  | lookUp service next other online' unknown free =>
    simp only [Scene.lookUp, heard_enter, look_up_mute]
    simp [Stage.deeds, unknown, speeches, heard]
  | answer service reply next => simp [Stage.deeds, speeches, Deed.speech?, heard, Scene.answer]
  | finish | hear => simp [Stage.deeds, speeches]

end Steps

end Stages

section Moves
variable {connector : Connector σ H} {robot : σ} {e e' : Engine σ H} {m : Move}
  {past : List Entry} {log : DeedLog H}

theorem release_same (s : Scene σ H) (standing : Standing) :
    (s.release standing).accessor = s.accessor ∧ (s.release standing).journal = s.journal := by
  cases standing <;> exact ⟨rfl, rfl⟩

theorem errand_heard {s s' : Scene σ H} {step : Step} {errand new : Errand H}
    (stepped : errand.step? s step = some (new, s'))
    (online : s.accessor.connector = some connector) :
    heard s' = heard s ++ spokenIn ((errand.deeds s step).map (errand.owner, ·)) := by
  cases errand_stepped stepped with
  | batch _ _ _ moved | payload _ _ _ moved | handle _ _ _ moved =>
    rw [stepped_heard moved online]
    exact congrArg _ (spoken_own _).symm

theorem moved_heard (moved : Moved e m e')
    (online : e.scene.accessor.connector = some connector) :
    heard e'.scene = heard e.scene ++ spokenIn (deedsIn e m) := by
  cases moved with
  | giveUp n errand found =>
    simp [deedsIn, spokenIn, heard, (release_same e.scene errand.standing).2]
  | step owner step errand new scene found stepped =>
    obtain ⟨-, owns⟩ := errand_of_some found
    simp only [deedsIn, found]
    exact owns ▸ errand_heard stepped online
  | _ => exact (List.append_nil _).symm

theorem errand_called {s s' : Scene σ H} {step : Step} {errand new : Errand H}
    (stepped : errand.step? s step = some (new, s'))
    (online : s.accessor.connector = some connector)
    (before : Called connector robot (s.journal.reverse.map Prod.snd) s.accessor.robot) :
    s'.accessor.connector = some connector ∧
      Called connector robot (s'.journal.reverse.map Prod.snd) s'.accessor.robot := by
  cases errand_stepped stepped with
  | batch _ _ _ moved | payload _ _ _ moved | handle _ _ _ moved =>
    exact ⟨(stepped_connector moved).trans online, stepped_called moved online before⟩

theorem move_overheard (moved : Moved e m e') (overheard : Overheard connector robot e.scene log) :
    Overheard connector robot e'.scene (log ++ deedsIn e m) := by
  obtain ⟨online, seen, same⟩ := overheard
  have told : heard e'.scene = spokenIn (log ++ deedsIn e m) := by
    rw [moved_heard moved online, same, spoken_append]
  cases moved with
  | giveUp n errand found =>
    obtain ⟨accessor, journal⟩ := release_same e.scene errand.standing
    exact ⟨accessor ▸ online, accessor ▸ journal ▸ seen, told⟩
  | step owner step errand new scene found stepped =>
    obtain ⟨online', seen'⟩ := errand_called stepped online seen
    exact ⟨online', seen', told⟩
  | _ => exact ⟨online, seen, told⟩

def InTurn (past : List Entry) (log : DeedLog H) : Prop :=
  log = (dispatchedIn past).flatMap fun job =>
    (doneBy (.job job.id) log).map (Owner.job job.id, ·)

theorem step_in_turn {job : Job} {deeds : List (Deed H)} (lone : Lone e.pool past)
    (fresh : ((dispatchedIn past).map Job.id).Nodup) {w : Nat}
    (running : e.pool.workers[w]? = some (.running job)) (turn : InTurn past log) :
    InTurn past (log ++ deeds.map (Owner.job job.id, ·)) := by
  obtain ⟨phase, one⟩ := lone.worker
  obtain ⟨-, rfl⟩ := only_worker one running
  have last : dispatchedIn past = (recordedIn past).map Prod.fst ++ [job] := by
    simpa [one, Phase.running?] using lone.running
  have apart : ∀ other ∈ (recordedIn past).map Prod.fst, Owner.job job.id ≠ .job other.id := by
    rintro other member same
    rw [last, List.map_append, List.nodup_append] at fresh
    exact fresh.2.2 other.id (List.mem_map_of_mem member) job.id (by simp)
      (Owner.job.inj same).symm
  have others : ((recordedIn past).map Prod.fst).flatMap (fun other =>
      (doneBy (.job other.id) (log ++ deeds.map (Owner.job job.id, ·))).map
        (Owner.job other.id, ·)) =
      ((recordedIn past).map Prod.fst).flatMap fun other =>
        (doneBy (.job other.id) log).map (Owner.job other.id, ·) := by
    refine List.flatMap_congr fun other member => ?_
    rw [done_by_append, done_by_other (apart other member), List.append_nil]
  rw [InTurn, last, List.flatMap_append] at turn ⊢
  rw [others, List.flatMap_singleton, done_by_append, done_by_own, List.map_append,
    ← List.append_assoc, ← List.flatMap_singleton (f := fun job : Job =>
      (doneBy (Owner.job job.id) log).map (Owner.job job.id, ·)), ← turn]

theorem move_in_turn (moved : Moved e m e') (queued : m.isQueued) (acc : Accounts e.pool past)
    (fresh : (enteredIn past).Nodup) (lone : Lone e.pool past) (inv : Traced e past log)
    (all : ∀ errand ∈ e.errands, ∃ id stage, errand = Errand.batch id stage)
    (turn : InTurn past log) : InTurn (past ++ happened e m) (log ++ deedsIn e m) := by
  have same : dispatchedIn (happened e m) = [] → InTurn (past ++ happened e m) log := by
    intro none
    rwa [InTurn, dispatchedIn, List.filterMap_append, ← dispatchedIn, ← dispatchedIn, none,
      List.append_nil]
  cases moved with
  | begin w job pool taken acted =>
    have started : dispatchedIn (happened e (.pool (.mark w))) = [job] := by
      simp [happened, entries, taken, dispatchedIn]
    have nothing := inv.pending job.id (waiting_not_dispatched acc fresh taken)
    unfold InTurn at turn
    rw [InTurn, dispatchedIn, List.filterMap_append, ← dispatchedIn, ← dispatchedIn, started]
    simpa [deedsIn, nothing] using turn
  | collect w result job pool running ended acted =>
    simpa [deedsIn] using same rfl
  | other action pool plain acted =>
    simpa [deedsIn] using same (plain_dispatched (act_step acted) plain)
  | request | call | giveUp => cases queued
  | step owner step errand new scene found stepped =>
    obtain ⟨here, owns⟩ := errand_of_some found
    obtain ⟨id, stage, rfl⟩ := all errand here
    obtain ⟨w, job, running, rfl, -⟩ := inv.serves id stage here
    obtain rfl : Owner.job job.id = owner := owns
    simp only [deedsIn, found, happened, List.append_nil]
    exact step_in_turn lone (dispatched_nodup acc fresh) running turn

end Moves

/-- What the robot was made to say for one job: the texts of those of its commands that were given a
    handle and have a text, in order, as far as its dispatch has come. Once a result is recorded,
    these are all of them, and the result is a report of these attempts. -/
structure SpokenFor (service : String) (e : Engine σ H) (story : List Entry) (job : Job)
    (attempts : List (Attempt H)) (done rest : List (Deed H)) (report : Report) : Prop where
  faithful : Faithful (.standard service) job.batch attempts (done ++ rest) report
  accounted : ∀ a ∈ attempts, a.Accounted
  spoken : doneBy (.job job.id) (heard e.scene) = speeches done
  sofar : (doneBy (.job job.id) (heard e.scene)).map Speech.text <+:
    (attempts.filter Attempt.speaks).map fun a => joinArgs a.command.args
  recorded : ∀ result, (job, result) ∈ recordedIn story →
    result = .returned report ∧
    doneBy (.job job.id) (heard e.scene) = speeches (attempts.flatMap Attempt.deeds) ∧
    (doneBy (.job job.id) (heard e.scene)).map Speech.text =
      (attempts.filter Attempt.speaks).map fun a => joinArgs a.command.args

/-- What the robot was made to say in a run: an interleaving of what was said for the jobs, and with
    one worker one job after another. -/
structure Spoken (service : String) (connector : Connector σ H) (robot : σ) (workers : Nat)
    (moves : List Move) (e : Engine σ H) (story : List Entry) (log : DeedLog H) : Prop where
  seen : Called connector robot (e.scene.journal.reverse.map Prod.snd) e.scene.accessor.robot
  jobs : ∀ job ∈ acceptedIn story, ∃ attempts rest report,
    SpokenFor service e story job attempts (doneBy (.job job.id) log) rest report
  distinct : ((acceptedIn story).map Job.id).Nodup
  interleaved : (∀ m ∈ moves, m.isQueued) → ∀ d ∈ heard e.scene,
    ∃ job ∈ acceptedIn story, d.1 = .job job.id
  concatenated : (∀ m ∈ moves, m.isQueued) → workers ≤ 1 →
    (heard e.scene).map Prod.snd =
      (acceptedIn story).flatMap fun job => doneBy (.job job.id) (heard e.scene)

section Runs
variable {service : String} {connector : Connector σ H} {robot : σ}
  {workers capacity retained : Nat} {moves : List Move} {e : Engine σ H} {log : DeedLog H}
  {past : List Entry}

theorem done_by_spoken {owner : Owner} (log : DeedLog H) :
    doneBy owner (spokenIn log) = speeches (doneBy owner log) := by
  induction log with
  | nil => rfl
  | cons d rest ih =>
    obtain ⟨other, deed⟩ := d
    simp only [doneBy, spokenIn, speeches, List.filterMap_cons] at ih ⊢
    by_cases own : other = owner <;> cases spoken : deed.speech? <;> simp [own, spoken, ih]

theorem spoken_for {job : Job} (acc : Accounts e.pool past) (fresh : (enteredIn past).Nodup)
    (registry : e.registry = .standard service) (inv : Traced e past log)
    (overheard : Overheard connector robot e.scene log) (accepted : job ∈ acceptedIn past) :
    ∃ attempts rest report,
      SpokenFor service e past job attempts (doneBy (.job job.id) log) rest report := by
  obtain ⟨rest, result, course, recorded⟩ := traced_course acc fresh inv accepted
  rw [registry] at course
  obtain ⟨attempts, report, rfl, faithful⟩ :=
    dispatch_faithful (standard_gives_futures job.batch.commands) course
  have accounted : ∀ a ∈ attempts, a.Accounted :=
    fun a member => standard_accounted (faithful.fits a member)
  have spoken : doneBy (.job job.id) (heard e.scene) = speeches (doneBy (.job job.id) log) := by
    rw [overheard.same, done_by_spoken]
  have whole : speeches (doneBy (.job job.id) log) ++ speeches rest =
      speeches (attempts.flatMap Attempt.deeds) := by
    rw [← speeches_append, faithful.deeds, speeches_append]
    simp [speeches, Deed.speech?]
  refine ⟨attempts, rest, report, faithful, accounted, spoken, ?_, ?_⟩
  · rw [← attempts_spoken accounted, ← whole, spoken, List.map_append]
    exact List.prefix_append _ _
  · intro result' member
    obtain ⟨rfl, rfl⟩ := recorded result' member
    have all : doneBy (.job job.id) (heard e.scene) =
        speeches (attempts.flatMap Attempt.deeds) := by
      rw [spoken, ← whole]
      simp [speeches]
    exact ⟨rfl, all, by rw [all, attempts_spoken accounted]⟩

theorem run_overheard
    (run : (opening (.standard service) (.online connector robot) workers capacity retained).run?
      moves = some e) :
    Overheard connector robot e.scene
      (deedLog (opening (.standard service) (.online connector robot) workers capacity retained)
        moves) := by
  induction moves using List.reverseRecOn generalizing e with
  | nil =>
    cases run
    exact ⟨rfl, .none, rfl⟩
  | append_singleton rest m ih =>
    obtain ⟨mid, before, move⟩ := run_snoc.mp run
    rw [deed_log_snoc before move]
    exact move_overheard (move_moved move) (ih before)

theorem run_served {registry : Registry H} {accessor : Accessor σ H}
    (run : (opening registry accessor workers capacity retained).run? moves = some e)
    (fresh : (issued (poolActions moves)).Nodup) (queued : ∀ m ∈ moves, m.isQueued) :
    ∀ d ∈ deedLog (opening registry accessor workers capacity retained) moves,
      ∃ job ∈ dispatchedIn (chronicle (Pool.start workers capacity retained) (poolActions moves)),
        d.1 = .job job.id := by
  induction moves using List.reverseRecOn generalizing e with
  | nil => simp [deedLog]
  | append_singleton rest m ih =>
    obtain ⟨mid, before, move⟩ := run_snoc.mp run
    have fresh' := issued_before fresh
    have queued' := queued_before queued
    rw [deed_log_snoc before move, opening_story_snoc before move, dispatchedIn,
      List.filterMap_append]
    intro d member
    rcases List.mem_append.mp member with old | new
    · obtain ⟨job, dispatched, owns⟩ := ih before fresh' queued' d old
      exact ⟨job, List.mem_append_left _ dispatched, owns⟩
    · obtain ⟨w, job, running, owns⟩ :=
        deed_served (run_traced before fresh') (run_batches before queued') new
      have acc := run_accounts (run_pool before)
      exact ⟨job, List.mem_append_left _ (running_dispatched acc running rfl), owns⟩

theorem run_in_turn {registry : Registry H} {accessor : Accessor σ H} (few : workers ≤ 1)
    (run : (opening registry accessor workers capacity retained).run? moves = some e)
    (fresh : (issued (poolActions moves)).Nodup) (queued : ∀ m ∈ moves, m.isQueued) :
    InTurn (chronicle (Pool.start workers capacity retained) (poolActions moves))
      (deedLog (opening registry accessor workers capacity retained) moves) := by
  induction moves using List.reverseRecOn generalizing e with
  | nil => rfl
  | append_singleton rest m ih =>
    obtain ⟨mid, before, move⟩ := run_snoc.mp run
    have fresh' := issued_before fresh
    have queued' := queued_before queued
    have pool := run_pool before
    rw [deed_log_snoc before move, opening_story_snoc before move]
    exact move_in_turn (move_moved move) (queued m (by simp)) (run_accounts pool)
      ((entered_chronicle pool).symm ▸ fresh') (run_lone few pool) (run_traced before fresh')
      (run_batches before queued') (ih before fresh' queued')

theorem in_turn_accepted (acc : Accounts e.pool past) (lone : Lone e.pool past)
    (fresh : (enteredIn past).Nodup) (inv : Traced e past log) (turn : InTurn past log) :
    log = (acceptedIn past).flatMap fun job =>
      (doneBy (.job job.id) log).map (Owner.job job.id, ·) := by
  have order : acceptedIn past =
      dispatchedIn past ++ (e.pool.workers.filterMap Phase.waiting? ++ e.pool.queue) := by
    rw [acc.queued, lone.waiting, List.append_assoc]
  have ids := accepted_nodup acc fresh
  rw [order, List.map_append, List.nodup_append] at ids
  have none : (e.pool.workers.filterMap Phase.waiting? ++ e.pool.queue).flatMap (fun job =>
      (doneBy (.job job.id) log).map (Owner.job job.id, ·)) = [] := by
    refine List.flatMap_eq_nil_iff.mpr fun job member => ?_
    have pending : job.id ∉ (dispatchedIn past).map Job.id := fun before =>
      ids.2.2 job.id before job.id (List.mem_map_of_mem member) rfl
    rw [inv.pending job.id pending, List.map_nil]
  rw [order, List.flatMap_append, none, List.append_nil]
  exact turn

theorem spoken_in_turn {jobs : List Job}
    (turn : log = jobs.flatMap fun job => (doneBy (.job job.id) log).map (Owner.job job.id, ·)) :
    (spokenIn log).map Prod.snd = jobs.flatMap fun job => doneBy (.job job.id) (spokenIn log) := by
  have one : ∀ job : Job, (spokenIn ((doneBy (.job job.id) log).map (Owner.job job.id, ·))).map
      Prod.snd = doneBy (.job job.id) (spokenIn log) := by
    intro job
    rw [spoken_own, List.map_map, done_by_spoken]
    exact List.map_id _
  calc (spokenIn log).map Prod.snd
    _ = (spokenIn (jobs.flatMap fun job =>
          (doneBy (.job job.id) log).map (Owner.job job.id, ·))).map Prod.snd := by rw [← turn]
    _ = jobs.flatMap fun job => (spokenIn ((doneBy (.job job.id) log).map
          (Owner.job job.id, ·))).map Prod.snd := by
      rw [spokenIn, List.filterMap_flatMap, List.map_flatMap]
      rfl
    _ = jobs.flatMap fun job => doneBy (.job job.id) (spokenIn log) := by simp only [one]

theorem batches_speak_in_order
    (run : (opening (.standard service) (.online connector robot) workers capacity retained).run?
      moves = some e)
    (fresh : (issued (poolActions moves)).Nodup) :
    Spoken service connector robot workers moves e
      (chronicle (Pool.start workers capacity retained) (poolActions moves))
      (deedLog (opening (.standard service) (.online connector robot) workers capacity retained)
        moves) := by
  have pool := run_pool run
  have acc := run_accounts pool
  have ids := (entered_chronicle pool).symm ▸ fresh
  have inv := run_traced run fresh
  have overheard := run_overheard run
  constructor
  case seen => exact overheard.seen
  case jobs => exact fun job => spoken_for acc ids (run_registry run) inv overheard
  case distinct => exact accepted_nodup acc ids
  case interleaved =>
    intro queued d member
    rw [overheard.same] at member
    obtain ⟨⟨owner, deed⟩, done, tagged⟩ := List.mem_filterMap.mp member
    obtain ⟨speech, -, rfl⟩ := Option.map_eq_some_iff.mp tagged
    obtain ⟨job, dispatched, owns⟩ := run_served run fresh queued _ done
    exact ⟨job, dispatched_accepted acc dispatched, owns⟩
  case concatenated =>
    intro queued few
    have turn := in_turn_accepted acc (run_lone few pool) ids inv (run_in_turn few run fresh queued)
    rw [overheard.same]
    exact spoken_in_turn turn

end Runs

def sayingAll (words : List String) (some : words ≠ []) : Batch :=
  ⟨words.map fun word => ⟨.known .saySomething, [.string word]⟩, by simpa using some⟩

/-- Two workers speak at the same time; the second learns of the handle that the first looks up. -/
def twoSpeakers : List Move :=
  let first : Owner := .job (Uuid.ofNat 1)
  let second : Owner := .job (Uuid.ofNat 2)
  [.pool (.enter (Uuid.ofNat 1) (sayingAll ["one", "two"] (by simp))),
    .pool (.track 0), .pool (.send 0),
    .pool (.enter (Uuid.ofNat 2) (sayingAll ["three"] (by simp))),
    .pool (.track 1), .pool (.send 1),
    .pool (.take 0), .pool (.mark 0), .pool (.take 1), .pool (.mark 1),
    .step first .advance, .step second .advance, .step first .advance, .step second .advance,
    .step first .lookUp, .step first .answer, .step second .lookUp,
    .step first .advance, .step first .advance, .step second .advance, .step second .advance,
    .step first .hear, .step first .advance, .step first .advance, .step first .advance,
    .step first .advance, .step first .hear, .step first .advance, .step first .advance,
    .pool (.finish 0 (.returned ⟨[⟨0, .known .saySomething, .performed⟩,
      ⟨1, .known .saySomething, .performed⟩]⟩)), .pool (.record 0)]

theorem two_batches_speak_in_order : ∃ e,
    (opening (.standard "tts") (.online (Robot.recorder none none) (.fresh 0)) 2 2 2).run?
      twoSpeakers = some e ∧
    Spoken "tts" (Robot.recorder none none) (.fresh 0) 2 twoSpeakers e
      (chronicle (Pool.start 2 2 2) (poolActions twoSpeakers))
      (deedLog (opening (.standard "tts") (.online (Robot.recorder none none) (.fresh 0)) 2 2 2)
        twoSpeakers) ∧
    (heard e.scene).map (fun d => (d.1, d.2.text)) =
      [(.job (Uuid.ofNat 1), "one"), (.job (Uuid.ofNat 2), "three"),
        (.job (Uuid.ofNat 1), "two")] := by
  have run : (opening (.standard "tts") (.online (Robot.recorder none none) (.fresh 0)) 2 2 2).run?
      twoSpeakers = some _ := rfl
  exact ⟨_, run, batches_speak_in_order run (by decide), rfl⟩

end CommandGateway.Engine
