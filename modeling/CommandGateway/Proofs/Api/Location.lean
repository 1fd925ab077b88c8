import CommandGateway.Proofs.Api.Discretion
import CommandGateway.Proofs.Api.Status
import CommandGateway.Proofs.Config
import CommandGateway.Proofs.Pool.Polling
import CommandGateway.Proofs.Text.Utf8
import CommandGateway.Proofs.Uuid

/- Where the status of a job is found. The Location that a batch is answered with leads to the job
   of that batch and to no other, as long as the job is known, and from then on to none. -/
namespace CommandGateway.Pool

section Sequels
variable {p q : Pool} {used : List Uuid} {past : List Entry} {id : Uuid} {batch : Batch}

/-- The story of a pool has gone on, and led to another. -/
def Sequel (used : List Uuid) (past : List Entry) (p q : Pool) : Prop :=
  q.tracker.retained = p.tracker.retained ∧ ∃ es, Story used q (past ++ es)

theorem sequel_here (story : Story used p past) : Sequel used past p p :=
  ⟨rfl, [], by rwa [List.append_nil]⟩

theorem sequel_mono (more : List Uuid) (sequel : Sequel used past p q) :
    Sequel (more ++ used) past p q := by
  obtain ⟨retained, es, acc, tracks, once, known⟩ := sequel
  exact ⟨retained, es, acc, tracks, once, fun id member =>
    List.mem_append_right _ (known id member)⟩

theorem sequel_step {q' : Pool} {a : Action} {es : List Entry} (sequel : Sequel used past p q)
    (step : Step q a es q') (new : ∀ id ∈ issued [a], id ∉ used) :
    Sequel (issued [a] ++ used) past p q' := by
  obtain ⟨retained, before, story⟩ := sequel
  refine ⟨(step_retained step).trans retained, before ++ es, ?_⟩
  rw [← List.append_assoc]
  exact step_story step story new

theorem sequel_played (a : Action) (sequel : Sequel used past p q)
    (new : ∀ id ∈ issued [a], id ∉ used) : Sequel (issued [a] ++ used) past p (played q a) := by
  cases acted : q.act? a with
  | none =>
    rw [played, acted]
    exact sequel_mono _ sequel
  | some q' =>
    rw [played, acted]
    exact sequel_step sequel (act_step acted) new

theorem sequel_submitted (sequel : Sequel used past p q) (new : id ∉ used) :
    Sequel (id :: used) past p (submitted q id batch) :=
  submitted_keeps (P := fun used q => Sequel used past p q) (fun _ => sequel_played _) sequel new

/-- A job that was taken and is not known any more was pushed out, and does not come back. -/
theorem unknown_stays {used' : List Uuid} (story : Story used p past)
    (accepted : id ∈ (acceptedIn past).map Job.id) (unknown : p.tracker.get? id = none)
    (sequel : Sequel used' past p q) : q.tracker.get? id = none := by
  obtain ⟨retained, es, later⟩ := sequel
  have nodup := recorded_nodup later.acc later.once
  have recorded : id ∈ recordedIds past := by
    by_contra pending
    rw [story.tracks.states, told_unrecorded pending, if_pos (Or.inl accepted)] at unknown
    split at unknown <;> cases unknown
  obtain ⟨⟨job, result⟩, member, rfl⟩ := List.mem_map.mp recorded
  rw [story.tracks.states, told_recorded (recorded_nodup story.acc story.once) member] at unknown
  have pushed : job.id ∉ newest p.tracker.retained (recordedIds past) := by
    intro kept
    rw [if_pos kept] at unknown
    cases unknown
  have ids : recordedIds (past ++ es) = recordedIds past ++ recordedIds es := by
    simp [recordedIds, recordedIn]
  have still : (job, result) ∈ recordedIn (past ++ es) := by
    rw [recordedIn, List.filterMap_append]
    exact List.mem_append_left _ member
  rw [later.tracks.states, told_recorded nodup still, retained, if_neg]
  rw [ids] at nodup ⊢
  exact fun kept => pushed (mem_newest_of_append nodup recorded kept)

end Sequels

end CommandGateway.Pool

namespace CommandGateway.Api

open Json Pool Engine

variable {σ H : Type}

section Routes
variable {commandsPath segment s : String} {table ms : List Mount}

def statusMount (commandsPath : String) : Mount :=
  ⟨.segment (commandsPath ++ "/"), .get, .status⟩

def placeBelow (commandsPath segment : String) : String := commandsPath ++ "/" ++ segment

theorem place_chars : (placeBelow commandsPath segment).toList =
    (commandsPath ++ "/").toList ++ segment.toList := by
  simp [placeBelow, String.toList_append]

theorem short_elsewhere {path : String} (short : s.toList.length < path.toList.length) :
    (Pattern.exact s).rest? path = none := by
  refine if_neg fun same => ?_
  rw [same] at short
  exact Nat.lt_irrefl _ short

theorem segment_rest (some : segment.toList ≠ []) (one : '/' ∉ segment.toList) :
    (Pattern.segment (commandsPath ++ "/")).rest? (placeBelow commandsPath segment) =
      .some segment := by
  have starts : (commandsPath ++ "/").toList.isPrefixOf
      (placeBelow commandsPath segment).toList = true := by
    rw [place_chars]
    exact List.isPrefixOf_iff_prefix.mpr (List.prefix_append ..)
  have behind : behind? (commandsPath ++ "/").toList (placeBelow commandsPath segment).toList =
      .some segment.toList := by
    rw [behind?, if_pos starts, place_chars, List.drop_left]
  obtain ⟨c, cs, shape⟩ := List.exists_cons_of_ne_nil some
  simp only [Pattern.rest?, behind, shape]
  rw [if_neg (shape ▸ one), ← shape, String.ofList_toList]

theorem status_route (long : 32 ≤ segment.toList.length) (one : '/' ∉ segment.toList) :
    route commandsPath (placeBelow commandsPath segment) =
      [(statusMount commandsPath, segment)] := by
  have length : (placeBelow commandsPath segment).toList.length =
      (commandsPath ++ "/").toList.length + segment.toList.length := by
    rw [place_chars, List.length_append]
  have own : (Pattern.exact commandsPath).rest? (placeBelow commandsPath segment) = none := by
    refine short_elsewhere ?_
    rw [length, String.toList_append, List.length_append]
    omega
  have fixed : ∀ s ∈ [descriptionPath, pagesPath, pagesPath ++ "/", "/", "/health"],
      (Pattern.exact s).rest? (placeBelow commandsPath segment) = none := by
    intro s member
    refine short_elsewhere ?_
    have short : ∀ s ∈ [descriptionPath, pagesPath, pagesPath ++ "/", "/", "/health"],
        s.toList.length < 32 := by decide
    have := short s member
    omega
  have some : segment.toList ≠ [] := by
    intro none
    simp [none] at long
  simp only [List.forall_mem_cons] at fixed
  obtain ⟨description, pages, below, landing, health, -⟩ := fixed
  have exact : fitting (placeBelow commandsPath segment) 0 (mounts commandsPath) = [] := by
    simp [fitting, mounts, fixedMounts, commandMounts, Pattern.rank, description, pages, below,
      landing, health, own]
  have segmented : fitting (placeBelow commandsPath segment) 1 (mounts commandsPath) =
      [(statusMount commandsPath, segment)] := by
    simp [fitting, mounts, fixedMounts, commandMounts, Pattern.rank, segment_rest some one,
      statusMount]
  simp [route, exact, segmented]

/-- By induction on the mounts to come; those in the table are compared with all of them. -/
theorem mount_all_iff : (∃ whole, mountAll table ms = .ok whole) ↔
    (∀ old ∈ table, ∀ m ∈ ms, clashes old m = false) ∧
      ms.Pairwise fun a b => clashes a b = false := by
  induction ms generalizing table with
  | nil => simp [mountAll]
  | cons m ms ih =>
    cases found : table.find? fun other => clashes other m with
    | some other =>
      have clash : clashes other m = true := by simpa using List.find?_some found
      have member : other ∈ table := List.mem_of_find?_eq_some found
      refine iff_of_false ?_ fun apart => ?_
      · simp [mountAll, found]
      · simp [apart.1 other member m List.mem_cons_self] at clash
    | none =>
      have free : ∀ old ∈ table, clashes old m = false := by simpa using found
      have next : mountAll table (m :: ms) = mountAll (table ++ [m]) ms := by simp [mountAll, found]
      rw [next, ih]
      constructor
      · rintro ⟨apart, rest⟩
        obtain ⟨before, own⟩ := List.forall_mem_append.mp apart
        refine ⟨fun old member => ?_, List.pairwise_cons.mpr ⟨own m List.mem_cons_self, rest⟩⟩
        exact List.forall_mem_cons.mpr ⟨free old member, before old member⟩
      · rintro ⟨apart, pairs⟩
        obtain ⟨own, rest⟩ := List.pairwise_cons.mp pairs
        refine ⟨List.forall_mem_append.mpr ⟨fun old member => ?_, by simpa using own⟩, rest⟩
        exact (List.forall_mem_cons.mp (apart old member)).2

theorem mountable_iff_mounted :
    isMountable commandsPath = true ↔ ∃ whole, mountAll [] (mounts commandsPath) = .ok whole := by
  unfold isMountable
  cases mountAll [] (mounts commandsPath) <;> simp [Except.isOk, Except.toBool]

theorem mountable (apart : commandsPath ≠ pagesPath) : isMountable commandsPath = true := by
  have below : commandsPath ++ "/" ≠ pagesPath ++ "/" := by
    intro same
    exact apart (String.ext (by simpa using congrArg String.toList same))
  have fixed : fixedMounts.Pairwise fun a b => clashes a b = false := by decide
  have own : (commandMounts commandsPath).Pairwise fun a b => clashes a b = false := by
    simp [commandMounts, clashes]
  have others : ∀ a ∈ fixedMounts, ∀ b ∈ commandMounts commandsPath, clashes a b = false := by
    simp [fixedMounts, commandMounts, clashes, below.symm]
  have apart := List.pairwise_append.mpr ⟨fixed, own, others⟩
  exact mountable_iff_mounted.mpr (mount_all_iff.mpr ⟨List.forall_mem_nil _, apart⟩)

end Routes

section Segments
variable {id : Uuid} {segment : String}

theorem decode_plain {b : Bytes} (plain : 0x25 ∉ b) : Net.percentDecode b = b := by
  induction b with
  | nil => rfl
  | cons x rest ih =>
    obtain ⟨first, later⟩ := not_or.mp (List.mem_cons.not.mp plain)
    unfold Net.percentDecode
    split
    · rename_i same
      exact absurd (List.cons.inj same).1.symm first
    · rename_i same
      obtain ⟨rfl, rfl⟩ := List.cons.inj same
      rw [ih later]
    · rename_i same
      exact same.symm

theorem segment_decoded (plain : ∀ c ∈ segment.toList, Net.isUnreserved c) :
    Text.ofUtf8? (Net.percentDecode (Text.utf8 segment)) = some segment := by
  have ascii : ∀ c ∈ segment.toList, c.toNat < 0x80 :=
    fun c member => Net.unreserved_ascii (plain c member)
  have noPercent : 0x25 ∉ Text.utf8 segment := by
    rw [Text.utf8_flat, Text.encode_all_ascii ascii]
    intro member
    obtain ⟨c, inside, same⟩ := List.mem_map.mp member
    have percent : c.toNat = '%'.toNat := by
      rw [← Text.byte_to_nat (ascii c inside), same]
      rfl
    obtain rfl := Char.toNat_inj.mp percent
    exact absurd (plain _ inside) (by decide)
  rw [decode_plain noPercent, Text.of_utf8_utf8]

theorem spelling_segment (spelling : Uuid.Spelling id segment.toList) :
    32 ≤ segment.toList.length ∧ '/' ∉ segment.toList ∧
      Text.ofUtf8? (Net.percentDecode (Text.utf8 segment)) = some segment ∧
      Uuid.parse segment = .ok id := by
  obtain ⟨long, plain⟩ := Uuid.spelling_plain spelling
  refine ⟨long, fun slash => absurd (plain _ slash) (by decide), segment_decoded plain, ?_⟩
  have read := Uuid.parse_spelling spelling
  rwa [String.ofList_toList] at read

end Segments

section Config
variable {env : Environment} {c : Config}

def Admitted (path : String) : Prop := ∀ c ∈ path.toList, isPathChar c

/-- A path that starts with a slash and goes on after it. -/
def Rooted (path : String) : Prop := ∃ d ds, path.toList = '/' :: d :: ds

theorem path_ok {raw path : String} (ok : pathOf raw = .ok path) :
    Rooted path ∧ Admitted path := by
  simp only [pathOf] at ok
  split at ok
  · rename_i rules
    obtain rfl := Except.ok.inj ok
    refine ⟨?_, List.all_eq_true.mp rules.2.2.2⟩
    match spelt : raw.toList with
    | [] | [_] => simp [spelt] at rules
    | c :: d :: ds =>
      obtain rfl : c = '/' := by simpa [spelt] using rules.1
      exact ⟨d, ds, spelt⟩
  · cases ok

theorem default_admitted : Rooted defaultCommandsPath ∧ Admitted defaultCommandsPath := by
  have all : defaultCommandsPath.toList.all isPathChar = true := by decide
  exact ⟨⟨_, _, rfl⟩, List.all_eq_true.mp all⟩

theorem loaded_path {file : Option Bytes} (loaded : Config.load env file = .ok c) :
    Rooted c.commandsPath ∧ Admitted c.commandsPath := by
  obtain ⟨whole, read⟩ := load_read loaded
  rcases value_ok read.commandsPath with usual | ⟨raw, ok⟩
  · exact usual ▸ default_admitted
  · exact path_ok ok

theorem place_target {commandsPath segment : String} (admitted : Admitted commandsPath)
    (plain : ∀ c ∈ segment.toList, Net.isUnreserved c) :
    pathOfTarget (placeBelow commandsPath segment) = placeBelow commandsPath segment := by
  have ends : isPathChar '?' = false ∧ isPathChar '#' = false := by decide
  have whole : ∀ c ∈ (placeBelow commandsPath segment).toList,
      decide (c ≠ '?' ∧ c ≠ '#') = true := by
    intro c member
    rw [place_chars, String.toList_append, List.mem_append, List.mem_append] at member
    rcases member with (path | slash) | inside
    · have own := admitted c path
      exact decide_eq_true
        ⟨by rintro rfl; simp [ends.1] at own, by rintro rfl; simp [ends.2] at own⟩
    · obtain rfl : c = '/' := by simpa using slash
      decide
    · exact decide_eq_true (Net.unreserved_inert (plain c inside)).noEnd
  rw [pathOfTarget, (Net.take_whole whole).1, String.ofList_toList]

end Config

section Runs
variable {first g g' later : Gateway σ H} {used more : List Uuid} {fresh : Uuid} {r : Request}
  {answer : Answer}

theorem reaches_trans (reached : Reaches first used g) (further : Reaches g more later)
    (apart : ∀ id ∈ more, id ∉ used) : Reaches first (more ++ used) later := by
  induction further with
  | here => exact reached
  | asked further fresh new r ih =>
    obtain ⟨unused, others⟩ := List.forall_mem_cons.mp apart
    exact .asked (ih others) fresh (by simp [new, unused]) r
  | moved further m queued new rota move ih =>
    obtain ⟨unused, others⟩ := List.forall_mem_append.mp apart
    rw [List.append_assoc]
    refine .moved (ih others) m queued (fun id issued => ?_) rota move
    exact fun known => (List.mem_append.mp known).elim (new id issued) (unused id issued)

theorem reached_sequel {past : List Entry} (mode : g.config.mode = .async)
    (story : Story used g.rota.engine.pool past) (further : Reaches g more later)
    (apart : ∀ id ∈ more, id ∉ used) :
    Sequel (more ++ used) past g.rota.engine.pool later.rota.engine.pool := by
  induction further with
  | here => exact sequel_here story
  | @asked more later further fresh new r ih =>
    obtain ⟨unused, others⟩ := List.forall_mem_cons.mp apart
    have sequel := ih others
    have cases := handle_cases later fresh r
    generalize later.handle fresh r = handling at cases
    cases cases with
    | elsewhere | large | rejected => exact sequel_mono [fresh] sequel
    | inline posts small sync =>
      rw [(reached_settings further).1, mode] at sync
      cases sync
    | queued posts small _ batch held =>
      simp only [Handling.gateway, (submit_engine fresh batch).1]
      exact sequel_submitted sequel (by simp [new, unused])
  | @moved more later further m queued new rota move ih =>
    obtain ⟨unused, others⟩ := List.forall_mem_append.mp apart
    have sequel := ih others
    have acted := moved_pool (move_moved move)
    rw [List.append_assoc]
    cases m with
    | pool action =>
      refine sequel_step sequel (act_step acted) fun id issued known => ?_
      exact (List.mem_append.mp known).elim (new id issued) (unused id issued)
    | step owner step =>
      simp only at acted
      exact acted ▸ sequel
    | request | call | giveUp => cases queued

theorem accepted_queued (handled : g.handle fresh r = .answered answer g')
    (accepted : answer.status = 202) : ∃ batch, Batch.ofBytes r.body = .ok batch ∧
      g.config.mode = .async ∧ (g.rota.submit fresh batch).1 = .ok () ∧
      answer = answerOf 202 [("location", locationOf g.config.commandsPath fresh)] "" ∧
      g' = { g with rota := (g.rota.submit fresh batch).2 } := by
  have cases := handle_cases g fresh r
  rw [handled] at cases
  cases cases with
  | elsewhere _ _ other => exact absurd accepted other
  | large | rejected => cases accepted
  | queued posts small mode batch held =>
    refine ⟨batch, held, mode, ?_⟩
    cases result : (g.rota.submit fresh batch).1 with
    | ok => exact ⟨rfl, rfl, rfl⟩
    | error e =>
      rw [result] at accepted
      cases accepted

end Runs

def locations (answer : Answer) : List String :=
  (answer.headers.filter (·.1 = "location")).map Prod.snd

/-- What a client is told when its batch has been queued under an id. -/
structure Receipt (c : Config) (g g' : Gateway σ H) (id : Uuid) (r : Request) (answer : Answer) :
    Prop where
  location : locations answer = [c.commandsPath ++ "/" ++ id.text]
  canonical : Uuid.Canonical id.text
  target : pathOfTarget (c.commandsPath ++ "/" ++ id.text) = c.commandsPath ++ "/" ++ id.text
  queued : ∃ batch, Batch.ofBytes r.body = .ok batch ∧
    Added ⟨id, batch⟩ g.rota.engine.pool g'.rota.engine.pool

/-- The request asks at the Location of an id, however that is spelt. -/
def AsksFor (c : Config) (id : Uuid) (r : Request) : Prop :=
  r.method = "GET" ∧ ∃ segment, Uuid.Spelling id segment.toList ∧
    pathOfTarget r.target = c.commandsPath ++ "/" ++ segment

/-- The answer is the document of a job in this state, and it reads back as such. -/
structure Shows (id : Uuid) (s : JobState) (answer : Answer) : Prop where
  status : answer.status = 200
  body : answer.body = documentText id s
  type : ("content-type", "application/json") ∈ answer.headers
  read : Counted s → ∃ v, Json.read (Text.utf8 answer.body) = .ok v ∧ Mirrors id s v

/-- What the Location of a job leads to in a later state. -/
structure Leads (c : Config) (id : Uuid) (used : List Uuid) (g : Gateway σ H) : Prop where
  routed : ∀ segment, Uuid.Spelling id segment.toList →
    taken? c.commandsPath (c.commandsPath ++ "/" ++ segment) (some .get) =
      some (statusMount c.commandsPath, segment) ∧ Uuid.parse segment = .ok id
  tracked : ∀ r other s, AsksFor c id r → g.rota.engine.pool.tracker.get? id = some s →
    ∃ answer, g.handle other r = .answered answer g ∧ Shows id s answer
  untracked : ∀ r other, AsksFor c id r → g.rota.engine.pool.tracker.get? id = none →
    ∃ answer, g.handle other r = .answered answer g ∧ answer.status = 404 ∧
      answer.body = "\x7b\"message\":\"Batch with id '" ++ id.text ++ "' not found\"\x7d"
  lost : g.rota.engine.pool.tracker.get? id = none → ∀ more later, Reaches g more later →
    (∀ other ∈ more, other ∉ used) → later.rota.engine.pool.tracker.get? id = none
  others : ∀ other r answer g', other ∉ used → g.handle other r = .answered answer g' →
    answer.status = 202 → locations answer ≠ [c.commandsPath ++ "/" ++ id.text]

section Leads
variable {c : Config} {first g g' later : Gateway σ H} {used more : List Uuid} {id : Uuid}
  {r : Request} {answer : Answer}

theorem locations_accepted (handled : g.handle id r = .answered answer g')
    (accepted : answer.status = 202) :
    locations answer = [g.config.commandsPath ++ "/" ++ id.text] := by
  obtain ⟨batch, -, -, -, rfl, -⟩ := accepted_queued handled accepted
  simp [locations, answerOf, openHeaders, exposed, locationOf]

theorem place_routed {segment : String} (spelling : Uuid.Spelling id segment.toList) :
    taken? c.commandsPath (c.commandsPath ++ "/" ++ segment) (some .get) =
      some (statusMount c.commandsPath, segment) ∧ Uuid.parse segment = .ok id := by
  obtain ⟨long, one, -, read⟩ := spelling_segment spelling
  have routed : route c.commandsPath (c.commandsPath ++ "/" ++ segment) =
      [(statusMount c.commandsPath, segment)] := status_route long one
  refine ⟨?_, read⟩
  rw [taken?, routed]
  rfl

theorem status_answered (asks : AsksFor g.config id r) (other : Uuid) :
    g.handle other r = .answered (match g.rota.engine.pool.tracker.get? id with
      | none => unknownJob id
      | some s => jsonAnswer 200 (statusDocument id s)) g := by
  obtain ⟨method, segment, spelling, path⟩ := asks
  obtain ⟨long, one, decoded, read⟩ := spelling_segment spelling
  have routed : route g.config.commandsPath (pathOfTarget r.target) =
      [(statusMount g.config.commandsPath, segment)] := path ▸ status_route long one
  have verb : verbOf? "GET" = some .get := rfl
  simp only [Gateway.handle, routed, method, verb]
  simp [statusMount, Gateway.respond, Gateway.status, decoded, read]
  cases g.rota.engine.pool.tracker.get? id <;> rfl

theorem document_shows (id : Uuid) (s : JobState) :
    Shows id s (jsonAnswer 200 (statusDocument id s)) where
  status := rfl
  body := document_written id s
  type := by simp [jsonAnswer, answerOf]
  read counted :=
    ⟨_, render_read (document_writable counted), sorted_mirrors (document_mirrors id s)⟩

theorem unknown_job_body (id : Uuid) : (unknownJob id).body =
    "\x7b\"message\":\"Batch with id '" ++ id.text ++ "' not found\"\x7d" := by
  have words : (∀ c ∈ "Batch with id '".toList, Unescaped c) ∧
      (∀ c ∈ "' not found".toList, Unescaped c) ∧ ∀ c ∈ "message".toList, Unescaped c := by
    simp [Unescaped]
  have whole : ∀ c ∈ ("Batch with id '" ++ id.text ++ "' not found").toList, Unescaped c := by
    simp only [String.toList_append]
    exact List.forall_mem_append.mpr
      ⟨List.forall_mem_append.mpr ⟨words.1, id_unescaped id⟩, words.2.1⟩
  apply String.toList_inj.mp
  simp [unknownJob, explain, jsonAnswer, answerOf, Explanation.toJson, Value.render, memberTexts,
    quote_unescaped whole, quote_unescaped words.2.2]

theorem receipt_given (admitted : Admitted g.config.commandsPath)
    (sound : Sound used g.rota.engine.pool) (new : id ∉ used)
    (handled : g.handle id r = .answered answer g') (accepted : answer.status = 202) :
    Receipt g.config g g' id r answer := by
  have plain := (Uuid.spelling_plain (Uuid.Spelling.canonical (u := id))).2
  refine ⟨locations_accepted handled accepted, Uuid.text_canonical id,
    place_target admitted plain, ?_⟩
  obtain ⟨batch, held, -, taken, -, rfl⟩ := accepted_queued handled accepted
  exact ⟨batch, held, submitted_added (submit_submitted (r := g.rota) batch sound new)
    (new_unknown sound new) taken⟩

theorem queued_accepted {p q : Pool} {past : List Entry} {job : Job} (story : Story used q past)
    (added : Added job p q) : job ∈ acceptedIn past := by
  rw [story.acc.queued, added.queue]
  simp

theorem location_leads_to_job {env : Environment} {file : Option Bytes} {registry : Registry H}
    {accessor : Accessor σ H} {gate : Gate} (loaded : Config.load env file = .ok c)
    (apart : c.commandsPath ≠ pagesPath)
    (reached : Reaches (.start c registry accessor gate) used g) (new : id ∉ used)
    (handled : g.handle id r = .answered answer g') (accepted : answer.status = 202)
    (further : Reaches g' more later) (fresh : ∀ other ∈ more, other ∉ id :: used) :
    isMountable c.commandsPath = true ∧ Receipt c g g' id r answer ∧
      Leads c id (more ++ id :: used) later := by
  have started := start_is_new c registry accessor gate
  obtain ⟨sound, -⟩ := reached_sound started reached
  have config : g.config = c := (reached_settings reached).1
  have taken := receipt_given (config ▸ (loaded_path loaded).2) sound new handled accepted
  rw [config] at taken
  have asked : Reaches (.start c registry accessor gate) (id :: used) g' := by
    have asked := Reaches.asked reached id new r
    rwa [handled] at asked
  have whole := reaches_trans asked further fresh
  have config' : later.config = c := (reached_settings whole).1
  have mode : g'.config.mode = .async := by
    obtain ⟨-, -, mode, -, -, rfl⟩ := accepted_queued handled accepted
    exact mode
  obtain ⟨past, acc, tracks, once, known⟩ := (reached_sound started asked).1.story
  have story : Story (id :: used) g'.rota.engine.pool past := ⟨acc, tracks, once, known⟩
  refine ⟨mountable apart, taken, ?_⟩
  constructor
  case routed => exact fun segment => place_routed
  case tracked =>
    intro r other s asks held
    refine ⟨_, status_answered (config' ▸ asks) other, ?_⟩
    rw [held]
    exact document_shows id s
  case untracked =>
    intro r other asks unknown
    refine ⟨_, status_answered (config' ▸ asks) other, ?_⟩
    rw [unknown]
    exact ⟨rfl, unknown_job_body id⟩
  case lost =>
    intro unknown more' last onward unused
    obtain ⟨retained, es, grown⟩ := reached_sequel mode story further fresh
    obtain ⟨batch, -, added⟩ := taken.queued
    have kept : id ∈ (acceptedIn (past ++ es)).map Job.id := by
      rw [acceptedIn, List.filterMap_append, List.map_append]
      exact List.mem_append_left _ (List.mem_map_of_mem (queued_accepted story added))
    have mode' : later.config.mode = .async := by rw [(reached_settings further).1, mode]
    exact unknown_stays grown kept unknown (reached_sequel mode' grown onward unused)
  case others =>
    intro other r' answer' g'' unused handled' accepted' same
    rw [locations_accepted handled' accepted', config'] at same
    have texts : other.text = id.text := by
      have lists := congrArg String.toList (List.cons.inj same).1
      exact String.toList_inj.mp (by simpa [String.toList_append] using lists)
    obtain rfl := Uuid.text_injective texts
    simp at unused

end Leads

def sharedConfig : Config := { Config.default with commandsPath := "/health", retained := 1 }

def sharedEnvironment : Environment :=
  (Environment.set ⟨[]⟩ "COMMANDS_PATH" "/health").set "RETAINED_JOBS" "1"

def shared : Gateway Unit Unit := .standard sharedConfig (.offline ()) ⟨true, []⟩

def wave : Request :=
  ⟨"POST", "/health", Text.utf8 "\x7b\"commands\":[\x7b\"type\":\"wave\"\x7d]\x7d"⟩

def askFirst : Request := ⟨"GET", "/health/000000000000000000000000000000AB", []⟩

def firstJob : Uuid := .ofNat 0xab

def secondJob : Uuid := .ofNat 0xac

def finishing (id : Uuid) : List Move :=
  [.pool (.take 0), .pool (.mark 0), .step (.job id) .advance, .step (.job id) .advance,
    .step (.job id) .advance, .step (.job id) .advance,
    .pool (.finish 0 (.returned ⟨[⟨0, .unknown (some "wave"), .unknownType⟩]⟩)),
    .pool (.record 0), .pool (.deliver 0)]

def Gateway.finish (g : Gateway Unit Unit) (id : Uuid) : Gateway Unit Unit :=
  g.withEngine ((g.rota.engine.run? (finishing id)).getD g.rota.engine)

theorem finish_reached {first g : Gateway Unit Unit} {used : List Uuid} {id : Uuid}
    (reached : Reaches first used g) (ends : (g.rota.engine.run? (finishing id)).isSome) :
    Reaches first used (g.finish id) := by
  have own : ∀ m ∈ finishing id, m.isQueued = true ∧ issued (poolActions [m]) = [] := by
    simp [finishing, Move.isQueued, poolActions, issued]
  obtain ⟨e, run⟩ := Option.isSome_iff_exists.mp ends
  have finished := moves_reach reached own run
  rwa [Gateway.finish, run]

def firstTaken : Gateway Unit Unit := (shared.handle firstJob wave).gateway

def firstDone : Gateway Unit Unit := firstTaken.finish firstJob

def bothDone : Gateway Unit Unit := (firstDone.handle secondJob wave).gateway.finish secondJob

/-- The first job is found when it has finished, and no more when the second one has as well. -/
theorem location_leads_to_job_beside_health :
    Config.load sharedEnvironment none = .ok sharedConfig ∧
    (∃ answer, shared.handle firstJob wave = .answered answer firstTaken ∧ answer.status = 202 ∧
      Receipt sharedConfig shared firstTaken firstJob wave answer) ∧
    (Leads sharedConfig firstJob [firstJob] firstDone ∧
      ∃ answer, firstDone.handle (.ofNat 1) askFirst = .answered answer firstDone ∧
        answer.status = 200 ∧
        answer.body = "\x7b\"id\":\"00000000-0000-0000-0000-0000000000ab\"," ++
          "\"state\":\"completed\",\"report\":\x7b\"commands\":[\x7b\"index\":0," ++
          "\"status\":\"unknown_type\",\"type\":\"wave\"\x7d]\x7d,\"error\":null\x7d") ∧
    Leads sharedConfig firstJob [secondJob, firstJob] bothDone ∧
      ∃ answer, bothDone.handle (.ofNat 1) askFirst = .answered answer bothDone ∧
        answer.status = 404 ∧
        answer.body = "\x7b\"message\":\"Batch with id " ++
          "'00000000-0000-0000-0000-0000000000ab' not found\"\x7d" := by
  have loaded : Config.load sharedEnvironment none = .ok sharedConfig := rfl
  have handled : shared.handle firstJob wave = .answered _ firstTaken := rfl
  have done : Reaches firstTaken [] firstDone := finish_reached .here (by decide)
  have both : Reaches firstTaken [secondJob] bothDone :=
    finish_reached (.asked done secondJob nofun wave) (by decide)
  obtain ⟨-, receipt, found⟩ := location_leads_to_job loaded (by decide) .here List.not_mem_nil
    handled rfl done nofun
  obtain ⟨-, -, lost⟩ := location_leads_to_job loaded (by decide) .here List.not_mem_nil
    handled rfl both (by decide)
  have asks : AsksFor sharedConfig firstJob askFirst :=
    ⟨rfl, "000000000000000000000000000000AB",
      (Uuid.Spelling.plain (.upper .canonical) : Uuid.Spelling firstJob _), rfl⟩
  have finished : firstDone.rota.engine.pool.tracker.get? firstJob =
      some (.completed ⟨[⟨0, .unknown (some "wave"), .unknownType⟩]⟩) := by decide
  have evicted : bothDone.rota.engine.pool.tracker.get? firstJob = none := by decide
  obtain ⟨document, polled, shows⟩ := found.tracked askFirst (.ofNat 1) _ asks finished
  obtain ⟨refusal, polled', status, body⟩ := lost.untracked askFirst (.ofNat 1) asks evicted
  exact ⟨loaded, ⟨_, handled, rfl, receipt⟩,
    ⟨found, document, polled, shows.status, shows.body.trans (by decide +kernel)⟩,
    lost, refusal, polled', status, body.trans (by decide)⟩

end CommandGateway.Api
