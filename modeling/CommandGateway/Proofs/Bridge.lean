import CommandGateway.Proofs.Inline
import CommandGateway.Proofs.Json.RoundTrip
import CommandGateway.Proofs.Net.Place
import CommandGateway.Robot.Bridge

/- What a bridge is asked while bodies are dispatched one after another. Its answers may depend on
   all that it has been asked before. For each command there is one stretch of requests: a lookup
   unless one has succeeded before, then an utterance if there is a service and something to say. -/
namespace CommandGateway

open Json Net Robot

variable {σ H α β : Type}

section Finish
variable {a : Accessor σ H}

def Work.finish (work : Work H α) (a : Accessor σ H) : α × Accessor σ H :=
  ((work.run a).1, (work.run a).2.2)

theorem finish_onto (work : Work H α) (past : List (Happening H)) :
    ((work.runOnto past a).1, (work.runOnto past a).2.2) = work.finish a := by
  rw [run_onto_eq]
  rfl

theorem finish_done (result : α) : (Work.done (H := H) result).finish a = (result, a) := rfl

theorem finish_log (event : Event) (next : Work H α) :
    (Work.log event next).finish a = next.finish a := finish_onto next _

theorem finish_acquire (service : String) (next : Reply (Option H) → Work H α) :
    (Work.acquire service next).finish a =
      (next (a.acquire service).1).finish (a.acquire service).2.2 := finish_onto _ _

theorem finish_speak (handle : H) (text : String) (next : Reply Unit → Work H α) :
    (Work.speak handle text next).finish a =
      (next (a.speak handle text).1).finish (a.speak handle text).2.2 := finish_onto _ _

theorem finish_bind (work : Work H α) (f : α → Work H β) :
    (work.bind f).finish a = (f (work.finish a).1).finish (work.finish a).2 := by
  rw [← finish_onto _ [], run_onto_bind, finish_onto]
  rfl

end Finish

namespace Robot

structure Exchange where
  request : Request
  answer : Option Answer

def Exchange.accepted (e : Exchange) : Bool :=
  match e.answer with
  | some answer => 200 ≤ answer.status && answer.status < 300
  | none => false

def Exchange.reply (e : Exchange) : Except Unanswered Answer :=
  match e.answer with
  | some answer => .ok answer
  | none => .error (.silence e.request.target)

def resolved (log : List Exchange) : Bool := log.any fun e => e.request.method = .get && e.accepted

abbrev Replies := List Exchange → Request → Option Answer

def made (script : Replies) (log : List Exchange) (request : Request) : Exchange :=
  ⟨request, script log request⟩

def recorded (script : Replies) : Network (List Exchange) := fun request log =>
  (script log request, log ++ [made script log request])

def lookupRequest (root : Url) (service : String) : Request :=
  ⟨.get, root.below ["services", service], none, []⟩

def voiceOf (b : Bridge) (service : String) : Voice := ⟨service, b.place service ++ "/speak"⟩

def speechRequest (root : Url) (service text : String) : Request :=
  ⟨.post, root.below ["services", service, "speak"], some "application/json", speechBody text⟩

/-- A bridge whose address is a URL, with no more to it than host and port, and below which the
    requests for a service can be made. -/
structure Addressable (b : Bridge) (root : Url) (service : String) : Prop where
  whole : ∀ c ∈ b.host.toList, endsAuthority c = false
  address : Url.ofText? b.address = some root
  plain : Plain service
  sendable : (root.below ["services", service, "speak"]).isRequestable

end Robot

section Requests
variable {b : Bridge} {root : Url} {service : String}

theorem plain_words : Plain "services" ∧ Plain "speak" :=
  ⟨⟨List.all_eq_true.mp (by decide), by decide, by decide⟩,
    ⟨List.all_eq_true.mp (by decide), by decide, by decide⟩⟩

theorem lookup_place (reach : Addressable b root service) :
    Url.ofText? (b.place service) = some (root.below ["services", service]) := by
  have plain : ∀ s ∈ ["services", service], Plain s := by simp [plain_words, reach.plain]
  refine address_below reach.whole reach.address plain (List.cons_ne_nil _ _) ?_
  simp [Bridge.place, Bridge.address, addressText, below]

theorem speech_place (reach : Addressable b root service) :
    Url.ofText? (b.place service ++ "/speak") =
      some (root.below ["services", service, "speak"]) := by
  have plain : ∀ s ∈ ["services", service, "speak"], Plain s := by simp [plain_words, reach.plain]
  refine address_below reach.whole reach.address plain (List.cons_ne_nil _ _) ?_
  simp [Bridge.place, Bridge.address, addressText, below]

theorem lookup_sendable (reach : Addressable b root service) :
    (root.below ["services", service]).isRequestable = true := by
  have longer := reach.sendable
  simp only [Url.isRequestable, Bool.and_eq_true, decide_eq_true_eq] at longer ⊢
  refine ⟨Nat.le_trans ?_ longer.1, longer.2⟩
  simp [Url.text, Url.below, Url.pathText, Url.authority, String.utf8ByteSize_append]
  omega

theorem send_recorded (script : Replies) (method : Method) {place : String} {target : Url}
    (reads : Url.ofText? place = some target) (sendable : target.isRequestable = true)
    (contentType : Option String) (body : Bytes) (log : List Exchange) :
    send (recorded script) method place contentType body log =
      ((made script log ⟨method, target, contentType, body⟩).reply,
        log ++ [made script log ⟨method, target, contentType, body⟩]) := by
  simp only [send, reads, sendable, if_true, recorded, made, Exchange.reply]
  cases script log ⟨method, target, contentType, body⟩ <;> rfl

theorem bridged_lookup (reach : Addressable b root service) {script : Replies}
    {log : List Exchange} {e : Exchange}
    (asked : made script log (lookupRequest root service) = e) :
    (bridged (recorded script) b).lookup service log =
      ((.returned (lookupReply b service e.reply), [placeEvent (b.place service)]),
        log ++ [e]) := by
  subst asked
  have sent := send_recorded script .get (lookup_place reach)
    (lookup_sendable reach) none [] log
  simp only [bridged, sent]
  rfl

theorem bridged_speak (reach : Addressable b root service) {script : Replies} {text : String}
    {log : List Exchange} {e : Exchange}
    (asked : made script log (speechRequest root service text) = e) :
    (bridged (recorded script) b).speak (voiceOf b service) text log =
      (.returned (speechReply service e.reply), log ++ [e]) := by
  subst asked
  have sent := send_recorded script .post (speech_place reach)
    reach.sendable (some "application/json") (speechBody text) log
  simp only [bridged, voiceOf, sent]
  rfl

theorem lookup_answered (b : Bridge) (service : String) (e : Exchange) :
    (e.accepted = true → lookupReply b service e.reply = .ok (voiceOf b service)) ∧
      (e.accepted = false → ∃ error, lookupReply b service e.reply = .error error) := by
  obtain ⟨request, answer⟩ := e
  cases answer with
  | none => exact ⟨nofun, fun _ => ⟨_, rfl⟩⟩
  | some answer =>
    constructor
    · intro success
      exact if_pos success
    · intro failure
      have failure : ¬ isSuccess answer.status = true := Bool.not_eq_true _ |>.mpr failure
      simp only [Exchange.reply, lookupReply, if_neg failure]
      split <;> exact ⟨_, rfl⟩

theorem speech_answered (service : String) (e : Exchange) :
    (e.accepted = true → speechReply service e.reply = .ok ()) ∧
      (e.accepted = false → ∃ error, speechReply service e.reply = .error error) := by
  obtain ⟨request, answer⟩ := e
  cases answer with
  | none => exact ⟨nofun, fun _ => ⟨_, rfl⟩⟩
  | some answer =>
    constructor
    · intro success
      exact if_pos success
    · intro failure
      have failure : ¬ isSuccess answer.status = true := Bool.not_eq_true _ |>.mpr failure
      exact ⟨_, if_neg failure⟩

theorem speech_body_read (text : String) :
    read (speechBody text) = .ok (.object [("text", .string text)]) := by
  have writable : Writable deepest (.object [("text", .string text)]) := by
    have apart : ∀ m ∈ [("text", Value.string text)].head?, m.1 ≠ embedKey := by simp [embedKey]
    have one : ∀ m ∈ [("text", Value.string text)], Writable 126 m.2 :=
      List.forall_mem_singleton.mpr (.scalar (.string text) (by simp [IsFloat]))
    exact .object apart one
  exact render_read writable

end Requests

section Steps
variable {b : Bridge} {root : Url} {service : String} {script : Replies}
  {a : Accessor (List Exchange) Voice}

/-- The service is known once a lookup has been answered with success. -/
structure Ready (script : Replies) (b : Bridge) (service : String)
    (a : Accessor (List Exchange) Voice) : Prop where
  connector : a.connector = some (bridged (recorded script) b)
  handles : a.handles = if resolved a.robot then [(service, voiceOf b service)] else []

theorem start_ready : Ready script b service (.online (bridged (recorded script) b) []) :=
  ⟨rfl, rfl⟩

theorem resolved_append (first second : List Exchange) :
    resolved (first ++ second) = (resolved first || resolved second) := List.any_append

theorem acquire_known (ready : Ready script b service a) (known : resolved a.robot = true) :
    a.acquire service = (.returned (.ok (some (voiceOf b service))), [], a) := by
  have found : handleFor service a.handles = some (voiceOf b service) := by
    simp [ready.handles, known, handleFor]
  simp only [Accessor.acquire, ready.connector, found]

theorem lookup_resolves (log : List Exchange) {e : Exchange} (lookup : e.request.method = .get) :
    resolved (log ++ [e]) = (resolved log || e.accepted) := by
  rw [resolved_append]
  simp [resolved, lookup]

theorem speech_resolves (log : List Exchange) {e : Exchange} (speech : e.request.method = .post) :
    resolved (log ++ [e]) = resolved log := by
  rw [resolved_append]
  simp [resolved, speech]

theorem acquire_unknown (reach : Addressable b root service) (ready : Ready script b service a)
    (unknown : resolved a.robot = false) {e : Exchange}
    (asked : made script a.robot (lookupRequest root service) = e) :
    a.acquire service =
      (found (.returned (lookupReply b service e.reply)),
        [.logged (lookupEvent service), .logged (placeEvent (b.place service)),
          .lookedUp service (.returned (lookupReply b service e.reply))],
        ({ a with robot := a.robot ++ [e] } : Accessor _ _).keep service
          (.returned (lookupReply b service e.reply))) := by
  have missing : handleFor service a.handles = none := by
    simp [ready.handles, unknown, handleFor]
  simp only [Accessor.acquire, ready.connector, missing, Accessor.lookUp,
    bridged_lookup reach asked]
  rfl

theorem acquire_asks (reach : Addressable b root service) (ready : Ready script b service a)
    (unknown : resolved a.robot = false) :
    ∃ e : Exchange, e.request = lookupRequest root service ∧
      (a.acquire service).2.2.robot = a.robot ++ [e] ∧
      Ready script b service (a.acquire service).2.2 ∧
      (e.accepted = true →
        (a.acquire service).1 = .returned (.ok (some (voiceOf b service)))) ∧
      (e.accepted = false → ∃ error, (a.acquire service).1 = .returned (.error error)) := by
  have empty : a.handles = [] := by simp [ready.handles, unknown]
  generalize asked : made script a.robot (lookupRequest root service) = e
  have request : e.request = lookupRequest root service := asked ▸ rfl
  have after : resolved (a.robot ++ [e]) = e.accepted := by
    rw [lookup_resolves _ (request ▸ rfl), unknown, Bool.false_or]
  obtain ⟨yes, no⟩ := lookup_answered b service e
  refine ⟨e, request, ?_⟩
  rw [acquire_unknown reach ready unknown asked]
  cases accepted : e.accepted with
  | true =>
    rw [yes accepted]
    have handles : (service, voiceOf b service) :: a.handles =
        if resolved (a.robot ++ [e]) then [(service, voiceOf b service)] else [] := by
      rw [after, accepted, empty]
      rfl
    exact ⟨rfl, ⟨ready.connector, handles⟩, fun _ => rfl, nofun⟩
  | false =>
    obtain ⟨error, refused⟩ := no accepted
    rw [refused]
    have handles : a.handles =
        if resolved (a.robot ++ [e]) then [(service, voiceOf b service)] else [] := by
      rw [after, accepted, empty]
      rfl
    exact ⟨rfl, ⟨ready.connector, handles⟩, nofun, fun _ => ⟨error, rfl⟩⟩

theorem speak_asks (reach : Addressable b root service) (ready : Ready script b service a)
    (text : String) :
    ∃ e : Exchange, e.request = speechRequest root service text ∧
      (a.speak (voiceOf b service) text).2.2.robot = a.robot ++ [e] ∧
      Ready script b service (a.speak (voiceOf b service) text).2.2 ∧
      (e.accepted = true → (a.speak (voiceOf b service) text).1 = .returned (.ok ())) ∧
      (e.accepted = false →
        ∃ error, (a.speak (voiceOf b service) text).1 = .returned (.error error)) := by
  generalize asked : made script a.robot (speechRequest root service text) = e
  have request : e.request = speechRequest root service text := asked ▸ rfl
  have after : resolved (a.robot ++ [e]) = resolved a.robot := speech_resolves _ (request ▸ rfl)
  have spoken : a.speak (voiceOf b service) text =
      (.returned (speechReply service e.reply),
        [.spoke (voiceOf b service) text (.returned (speechReply service e.reply))],
        { a with robot := a.robot ++ [e] }) := by
    simp only [Accessor.speak, ready.connector, bridged_speak reach asked]
  have handles : a.handles =
      if resolved (a.robot ++ [e]) then [(service, voiceOf b service)] else [] := by
    rw [after, ready.handles]
  obtain ⟨yes, no⟩ := speech_answered service e
  refine ⟨e, request, ?_⟩
  rw [spoken]
  refine ⟨rfl, ⟨ready.connector, handles⟩, fun accepted => ?_, fun accepted => ?_⟩
  · rw [yes accepted]
  · obtain ⟨error, refused⟩ := no accepted
    exact ⟨error, by rw [refused]⟩

end Steps

def audible (args : List Value) : Bool := !args.isEmpty && !Text.isBlankText (joinArgs args)

/-- What became of one command: what the bridge was asked for it, and what is reported of it. -/
structure Visit where
  command : Command
  exchanges : List Exchange
  status : CommandStatus

/-- What the bridge was asked for a command after all that it was asked before, and what the answers
    made of the command. -/
structure Visit.Served (root : Url) (service : String) (before : List Exchange) (v : Visit) :
    Prop where
  requests : v.exchanges.map Exchange.request =
    if v.command.kind = .known .saySomething then
      (if resolved before then [] else [lookupRequest root service]) ++
        (if resolved (before ++ v.exchanges) && audible v.command.args then
          [speechRequest root service (joinArgs v.command.args)] else [])
    else []
  bodies : ∀ e ∈ v.exchanges, e.request.method = .post →
    read e.request.body = .ok (.object [("text", .string (joinArgs v.command.args))])
  unresolved : v.status = .skipped .actuatorUnresolved ↔
    ∃ e ∈ v.exchanges, e.request.method = .get ∧ e.accepted = false
  performed : v.status = .performed ↔
    ∃ e ∈ v.exchanges, e.request.method = .post ∧ e.accepted = true
  failed : (∃ error, v.status = .failed error) ↔
    ∃ e ∈ v.exchanges, e.request.method = .post ∧ e.accepted = false

section Commands
variable {b : Bridge} {root : Url} {service : String} {script : Replies}
  {a : Accessor (List Exchange) Voice} {args : List Value}

inductive Uttered (root : Url) (service : String) (args : List Value) :
    List Exchange → CommandStatus → Prop
  | mute (reason : SkipReason) (known : reason ≠ .actuatorUnresolved)
      (silent : audible args = false) : Uttered root service args [] (.skipped reason)
  | performed (e : Exchange) (heard : audible args = true)
      (asks : e.request = speechRequest root service (joinArgs args)) (yes : e.accepted = true) :
      Uttered root service args [e] .performed
  | failed (e : Exchange) (error : String) (heard : audible args = true)
      (asks : e.request = speechRequest root service (joinArgs args)) (no : e.accepted = false) :
      Uttered root service args [e] (.failed error)

theorem uttered (reach : Addressable b root service) (ready : Ready script b service a)
    (args : List Value) : ∃ exchanges ended a',
      (sayThrough (voiceOf b service) args).finish a = (ended, a') ∧
      a'.robot = a.robot ++ exchanges ∧ Ready script b service a' ∧
      Uttered root service args exchanges (statusOf ended) := by
  unfold sayThrough
  split
  · rename_i none
    exact ⟨[], _, a, rfl, by simp, ready, .mute .noArguments nofun (by simp [audible, none])⟩
  · rename_i some
    simp only
    split
    · rename_i blank
      exact ⟨[], _, a, rfl, by simp, ready, .mute .noValidText nofun (by simp [audible, blank])⟩
    · rename_i heard
      have heard : audible args = true := by
        simp only [Bool.not_eq_true] at some heard
        simp [audible, some, heard]
      obtain ⟨e, asks, kept, after, yes, no⟩ := speak_asks reach ready (joinArgs args)
      rw [finish_log, finish_speak]
      cases accepted : e.accepted with
      | true =>
        rw [yes accepted]
        exact ⟨[e], _, _, rfl, kept, after, .performed e heard asks accepted⟩
      | false =>
        obtain ⟨error, refused⟩ := no accepted
        rw [refused]
        exact ⟨[e], _, _, rfl, kept, after, .failed e _ heard asks accepted⟩

theorem speech_exchange {e : Exchange} {text : String}
    (asks : e.request = speechRequest root service text) :
    e.request.method = .post ∧ read e.request.body = .ok (.object [("text", .string text)]) := by
  rw [asks]
  exact ⟨rfl, speech_body_read text⟩

theorem exists_later {P : Exchange → Prop} {first later : List Exchange}
    (none : ∀ e ∈ first, ¬ P e) : (∃ e ∈ first ++ later, P e) ↔ ∃ e ∈ later, P e := by
  constructor
  · rintro ⟨e, member, own⟩
    rcases List.mem_append.mp member with early | late
    · exact absurd own (none e early)
    · exact ⟨e, late, own⟩
  · rintro ⟨e, late, own⟩
    exact ⟨e, List.mem_append_right _ late, own⟩

theorem uttered_tells {exchanges : List Exchange} {status : CommandStatus}
    (uttered : Uttered root service args exchanges status) :
    exchanges.map Exchange.request =
        (if audible args then [speechRequest root service (joinArgs args)] else []) ∧
      (∀ e ∈ exchanges, e.request.method = .post ∧
        read e.request.body = .ok (.object [("text", .string (joinArgs args))])) ∧
      status ≠ .skipped .actuatorUnresolved ∧
      (status = .performed ↔ ∃ e ∈ exchanges, e.accepted = true) ∧
      ((∃ error, status = .failed error) ↔ ∃ e ∈ exchanges, e.accepted = false) := by
  cases uttered with
  | mute reason known silent => simp [silent, known]
  | performed e heard asks yes =>
    exact ⟨by simp [heard, asks], List.forall_mem_singleton.mpr (speech_exchange asks), nofun,
      by simp [yes], by simp [yes]⟩
  | failed e error heard asks no =>
    exact ⟨by simp [heard, asks], List.forall_mem_singleton.mpr (speech_exchange asks), nofun,
      by simp [no], by simp [no]⟩

theorem found_served {command : Command} {before first later : List Exchange}
    {status : CommandStatus} (own : command.kind = .known .saySomething)
    (asked : first.map Exchange.request =
      if resolved before then [] else [lookupRequest root service])
    (yes : ∀ e ∈ first, e.request.method = .get ∧ e.accepted = true)
    (known : resolved (before ++ first) = true)
    (uttered : Uttered root service command.args later status) :
    Visit.Served root service before ⟨command, first ++ later, status⟩ := by
  obtain ⟨requests, posts, unlike, performed, failed⟩ := uttered_tells uttered
  have still : resolved (before ++ (first ++ later)) = true := by
    rw [← List.append_assoc, resolved_append, known, Bool.true_or]
  have noPost : ∀ e ∈ first, e.request.method ≠ .post := fun e member => by
    simp [(yes e member).1]
  -- only the later exchanges are posts, and they are nothing else
  have answered : ∀ accepted : Bool, (∃ e ∈ first ++ later, e.request.method = .post ∧
      e.accepted = accepted) ↔ ∃ e ∈ later, e.accepted = accepted := by
    intro accepted
    rw [exists_later fun e member own => noPost e member own.1]
    exact exists_congr fun e => and_congr_right fun member => and_iff_right (posts e member).1
  constructor
  case requests => simp [own, asked, still, requests]
  case bodies =>
    exact List.forall_mem_append.mpr
      ⟨fun e member post => absurd post (noPost e member), fun e member _ => (posts e member).2⟩
  case unresolved =>
    refine iff_of_false unlike ?_
    rw [exists_later fun e member => by simp [(yes e member).2]]
    rintro ⟨e, member, get, -⟩
    cases get.symm.trans (posts e member).1
  case performed => rw [answered true, ← performed]
  case failed => rw [answered false, ← failed]

theorem lost_served {command : Command} {before : List Exchange} {e : Exchange}
    (own : command.kind = .known .saySomething) (unknown : resolved before = false)
    (asks : e.request = lookupRequest root service) (no : e.accepted = false) :
    Visit.Served root service before ⟨command, [e], .skipped .actuatorUnresolved⟩ := by
  have get : e.request.method = .get := asks ▸ rfl
  have still : resolved (before ++ [e]) = false := by
    rw [lookup_resolves _ get, unknown, no, Bool.or_false]
  constructor
  · simp [own, unknown, still, asks]
  · simp [get]
  · simp [get, no]
  · simp [no]
  · simp [get]

theorem idle_served {command : Command} {before : List Exchange}
    (other : command.kind ≠ .known .saySomething) :
    Visit.Served root service before ⟨command, [], .unknownType⟩ := by
  constructor <;> simp [other]

theorem settle_finish (index : Nat) (kind : CommandType) (ended : Handled)
    (a : Accessor σ H) : (settle index kind ended).finish a = (.returned (statusOf ended), a) := by
  match ended with
  | .returned (.ok .performed) | .returned (.ok (.skipped reason)) => rfl
  | .returned (.error e) => exact finish_log _ _
  | .panicked p => exact finish_log _ _

theorem attempt_say (service : String) {command : Command}
    (own : command.kind = .known .saySomething) (index : Nat) :
    ∃ work : Work Voice Handled, say service command.args = .started work ∧
      attempt (.standard service) index command = work.bind (settle index command.kind) := by
  refine ⟨_, rfl, ?_⟩
  unfold attempt
  rw [own]
  rfl

theorem say_visit (reach : Addressable b root service) (ready : Ready script b service a)
    {command : Command} (own : command.kind = .known .saySomething) {work : Work Voice Handled}
    (started : say service command.args = .started work) : ∃ exchanges ended a',
      work.finish a = (ended, a') ∧ a'.robot = a.robot ++ exchanges ∧ Ready script b service a' ∧
      Visit.Served root service a.robot ⟨command, exchanges, statusOf ended⟩ := by
  cases started
  cases known : resolved a.robot with
  | true =>
    rw [finish_acquire, acquire_known ready known]
    obtain ⟨later, ended, a', ends, kept, after, said⟩ := uttered reach ready command.args
    have served : Visit.Served root service a.robot ⟨command, [] ++ later, statusOf ended⟩ :=
      found_served own (by simp [known]) (by simp) (by simpa using known) said
    exact ⟨later, ended, a', ends, kept, after, served⟩
  | false =>
    obtain ⟨e, asks, kept, after, yes, no⟩ := acquire_asks reach ready known
    rw [finish_acquire]
    cases accepted : e.accepted with
    | true =>
      rw [yes accepted]
      obtain ⟨later, ended, a', ends, keptAll, afterAll, said⟩ :=
        uttered reach after command.args
      have get : e.request.method = .get := asks ▸ rfl
      have found : resolved (a.robot ++ [e]) = true := by
        rw [lookup_resolves _ get, accepted, Bool.or_true]
      have served : Visit.Served root service a.robot ⟨command, [e] ++ later, statusOf ended⟩ :=
        found_served own (by simp [known, asks]) (by simp [get, accepted]) found said
      refine ⟨[e] ++ later, ended, a', ends, ?_, afterAll, served⟩
      rw [keptAll, kept, List.append_assoc]
    | false =>
      obtain ⟨error, refused⟩ := no accepted
      rw [refused]
      exact ⟨[e], _, _, finish_log _ _, kept, after, lost_served own known asks accepted⟩

theorem attempt_visit (reach : Addressable b root service) (ready : Ready script b service a)
    (index : Nat) (command : Command) : ∃ (v : Visit) (a' : Accessor (List Exchange) Voice),
      (attempt (.standard service) index command).finish a = (.returned v.status, a') ∧
      v.command = command ∧ a'.robot = a.robot ++ v.exchanges ∧ Ready script b service a' ∧
      v.Served root service a.robot := by
  match tag : command.kind with
  | .known .saySomething =>
    obtain ⟨work, started, same⟩ := attempt_say service tag index
    obtain ⟨exchanges, ended, a', ends, kept, after, served⟩ := say_visit reach ready tag started
    refine ⟨⟨command, exchanges, statusOf ended⟩, a', ?_, rfl, kept, after, served⟩
    rw [same, finish_bind, ends, settle_finish]
  | .unknown name =>
    have same : attempt (H := Voice) (.standard service) index command =
        .log (unknownTypeEvent index command.kind) (.done (.returned .unknownType)) := by
      simp only [attempt, tag]
    refine ⟨⟨command, [], .unknownType⟩, a, ?_, rfl, by simp, ready, idle_served (by simp [tag])⟩
    rw [same, finish_log, finish_done]

end Commands

def Follows (root : Url) (service : String) : List Exchange → List Visit → Prop
  | _, [] => True
  | before, v :: visits =>
    v.Served root service before ∧ Follows root service (before ++ v.exchanges) visits

def reportsFrom (index : Nat) : List Visit → List CommandReport
  | [] => []
  | v :: visits => ⟨index, v.command.kind, v.status⟩ :: reportsFrom (index + 1) visits

section Batches
variable {b : Bridge} {root : Url} {service : String} {script : Replies}
  {a : Accessor (List Exchange) Voice}

theorem follows_append {before : List Exchange} {first second : List Visit} :
    Follows root service before (first ++ second) ↔ Follows root service before first ∧
      Follows root service (before ++ first.flatMap Visit.exchanges) second := by
  induction first generalizing before with
  | nil => simp [Follows]
  | cons v rest ih => simp [Follows, ih, and_assoc]

/-- By induction on the commands: each is attempted in the state that the one before has left. -/
theorem attempts_visits (reach : Addressable b root service) (ready : Ready script b service a)
    (index : Nat) (done : List CommandReport) (commands : List Command) :
    ∃ (visits : List Visit) (a' : Accessor (List Exchange) Voice),
      (attemptFrom (.standard service) index done commands).finish a =
        (.returned (done.reverse ++ reportsFrom index visits), a') ∧
      visits.map Visit.command = commands ∧
      a'.robot = a.robot ++ visits.flatMap Visit.exchanges ∧ Ready script b service a' ∧
      Follows root service a.robot visits := by
  induction commands generalizing index done a with
  | nil =>
    have ends : (attemptFrom (.standard service) index done []).finish a =
        (.returned (done.reverse ++ reportsFrom index []), a) := by
      simp [attemptFrom, finish_done, reportsFrom]
    exact ⟨[], a, ends, rfl, by simp, ready, trivial⟩
  | cons command rest ih =>
    obtain ⟨v, a₁, ends, rfl, kept, after, served⟩ := attempt_visit reach ready index command
    obtain ⟨visits, a₂, endsAll, commands, keptAll, afterAll, follows⟩ :=
      ih after (index + 1) (⟨index, v.command.kind, v.status⟩ :: done)
    refine ⟨v :: visits, a₂, ?_, by simp [commands], ?_, afterAll, served, kept ▸ follows⟩
    · simp only [attemptFrom, finish_log, finish_bind, ends, endsAll, reportsFrom]
      simp
    · simp [keptAll, kept]

theorem dispatch_visits (reach : Addressable b root service) (ready : Ready script b service a)
    (batch : Batch) : ∃ (visits : List Visit) (a' : Accessor (List Exchange) Voice),
      (dispatch (.standard service) batch).finish a = (.returned ⟨reportsFrom 0 visits⟩, a') ∧
      visits.map Visit.command = batch.commands ∧
      a'.robot = a.robot ++ visits.flatMap Visit.exchanges ∧ Ready script b service a' ∧
      Follows root service a.robot visits := by
  obtain ⟨visits, a', ends, rest⟩ := attempts_visits reach ready 0 [] batch.commands
  refine ⟨visits, a', ?_, rest⟩
  simp only [dispatch, finish_bind, ends, finish_log, finish_done]
  rfl

end Batches

/-- The outcomes of some bodies, and the visits of the commands of those that hold a batch. -/
inductive Attended : List Bytes → List (Ended DispatchOutcome) → List Visit → Prop
  | nil : Attended [] [] []
  | rejected (body : Bytes) (e : BatchError) (refused : Batch.ofBytes body = .error e)
      {bodies : List Bytes} {outcomes : List (Ended DispatchOutcome)} {visits : List Visit}
      (rest : Attended bodies outcomes visits) :
      Attended (body :: bodies) (.returned (.rejected e) :: outcomes) visits
  | accepted (body : Bytes) (batch : Batch) (own : List Visit)
      (held : Batch.ofBytes body = .ok batch) (each : own.map Visit.command = batch.commands)
      {bodies : List Bytes} {outcomes : List (Ended DispatchOutcome)} {visits : List Visit}
      (rest : Attended bodies outcomes visits) :
      Attended (body :: bodies) (.returned (.accepted ⟨reportsFrom 0 own⟩) :: outcomes)
        (own ++ visits)

section Bodies
variable {b : Bridge} {root : Url} {service : String} {script : Replies}
  {a : Accessor (List Exchange) Voice}

theorem bodies_attended (reach : Addressable b root service) (ready : Ready script b service a)
    (bodies : List Bytes) : ∃ visits : List Visit,
      Attended bodies (runAll a (bodies.map (dispatchPayload (.standard service)))).1 visits ∧
      (runAll a (bodies.map (dispatchPayload (.standard service)))).2.2.robot =
        a.robot ++ visits.flatMap Visit.exchanges ∧
      Follows root service a.robot visits := by
  induction bodies generalizing a with
  | nil => exact ⟨[], .nil, by simp [runAll], trivial⟩
  | cons body bodies ih =>
    cases verdict : Batch.ofBytes body with
    | error e =>
      obtain ⟨visits, attended, kept, follows⟩ := ih ready
      simp only [List.map_cons, runAll, rejected_run verdict]
      exact ⟨visits, .rejected body e verdict attended, kept, follows⟩
    | ok batch =>
      obtain ⟨own, a', ends, each, kept, after, first⟩ := dispatch_visits reach ready batch
      obtain ⟨visits, attended, keptAll, later⟩ := ih after
      have returned : ((dispatch (.standard service) batch).run a).1 =
        .returned ⟨reportsFrom 0 own⟩ := congrArg Prod.fst ends
      have left : ((dispatch (.standard service) batch).run a).2.2 = a' := congrArg Prod.snd ends
      simp only [List.map_cons, runAll, accepted_run verdict returned, left]
      refine ⟨own ++ visits, .accepted body batch own verdict each attended, ?_, ?_⟩
      · simp [keptAll, kept]
      · exact follows_append.mpr ⟨first, kept ▸ later⟩

theorem lookup_path (root : Url) (service : String) :
    (lookupRequest root service).target.pathText = "/services/" ++ service := by
  rw [← String.toList_inj]
  simp [lookupRequest, Url.below, Url.pathText]

theorem speech_path (root : Url) (service text : String) :
    (speechRequest root service text).target.pathText = "/services/" ++ service ++ "/speak" := by
  rw [← String.toList_inj]
  simp [speechRequest, Url.below, Url.pathText]

end Bodies

def overBridge (script : Replies) (b : Bridge) (service : String) (bodies : List Bytes) :
    List (Ended DispatchOutcome) × List (Happening Voice) × Accessor (List Exchange) Voice :=
  runAll (.online (bridged (recorded script) b) [])
    (bodies.map (dispatchPayload (.standard service)))

/-- A bridge is asked exactly what the commands of the accepted batches call for, in their order,
    and nothing for any other command or body. -/
theorem bridge_asked_as_needed {b : Bridge} {root : Url} {service : String}
    (reach : Addressable b root service) (script : Replies) (bodies : List Bytes) :
    ∃ visits : List Visit,
      Attended bodies (overBridge script b service bodies).1 visits ∧
      (overBridge script b service bodies).2.2.robot = visits.flatMap Visit.exchanges ∧
      Follows root service [] visits ∧
      (lookupRequest root service).target.pathText = "/services/" ++ service ∧
      ∀ text, (speechRequest root service text).target.pathText =
        "/services/" ++ service ++ "/speak" := by
  have ready : Ready script b service (.online (bridged (recorded script) b) []) := start_ready
  obtain ⟨visits, attended, kept, follows⟩ := bodies_attended reach ready bodies
  exact ⟨visits, attended, kept, follows, lookup_path root service, speech_path root service⟩

def fickle : Replies := fun log _ =>
  match log.length with
  | 0 => some ⟨404, []⟩
  | 1 => some ⟨200, []⟩
  | _ => none

def lab : Bridge := ⟨"robot", 9559⟩

def labRoot : Url := ⟨none, .domain "robot", some 9559, [""], none, none⟩

def talk : List Bytes :=
  [Text.utf8 ("\x7b\"commands\":[\x7b\"type\":\"say_something\"\x7d," ++
      "\x7b\"type\":\"wave\"\x7d]\x7d"),
    Text.utf8 "[]",
    Text.utf8 "\x7b\"commands\":[\x7b\"type\":\"say_something\",\"args\":[3]\x7d]\x7d"]

/-- The first lookup fails, though there is nothing to say; the second one succeeds. -/
theorem lab_asked_as_needed :
    Addressable lab labRoot "Speech" ∧
    (∃ visits : List Visit,
      Attended talk (overBridge fickle lab "Speech" talk).1 visits ∧
      (overBridge fickle lab "Speech" talk).2.2.robot = visits.flatMap Visit.exchanges ∧
      Follows labRoot "Speech" [] visits) ∧
    ((overBridge fickle lab "Speech" talk).2.2.robot.map fun e =>
        (e.request.method, e.request.target.text, e.request.body)) =
      [(.get, "http://robot:9559/services/Speech", []),
        (.get, "http://robot:9559/services/Speech", []),
        (.post, "http://robot:9559/services/Speech/speak",
          Text.utf8 "\x7b\"text\":\"3\"\x7d")] ∧
    (overBridge fickle lab "Speech" talk).1 =
      [.returned (.accepted ⟨[⟨0, .known .saySomething, .skipped .actuatorUnresolved⟩,
          ⟨1, .unknown (some "wave"), .unknownType⟩]⟩),
        .returned (.rejected .notAnObject),
        .returned (.accepted ⟨[⟨0, .known .saySomething, .failed (
          "actuator call failed: actuator service 'Speech' failed: " ++
            "error sending request for url (http://robot:9559/services/Speech/speak)")⟩]⟩)] := by
  have bounded : (lab.host.toList.all fun c => !endsAuthority c) = true := by decide
  have reach : Addressable lab labRoot "Speech" :=
    ⟨fun c member => by simpa using List.all_eq_true.mp bounded c member, by decide +kernel,
      ⟨List.all_eq_true.mp (by decide), by decide, by decide⟩, by decide +kernel⟩
  obtain ⟨visits, attended, kept, follows, -⟩ := bridge_asked_as_needed reach fickle talk
  exact ⟨reach, ⟨visits, attended, kept, follows⟩, by decide +kernel, by decide +kernel⟩

end CommandGateway
