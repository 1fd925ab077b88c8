import CommandGateway.Proofs.Bridge
import CommandGateway.Proofs.Net.Segment

/- Which service a bridge is asked for. The name of a service is put into the place as it stands, so
   the requests name the service just when its name is verbatim: other names have a mark, an escape,
   a dot segment or blanks in them that make another place of it. -/
namespace CommandGateway

open Net Robot

namespace Robot

def asked (script : Replies) (log : List Exchange) (request : Request) : List Exchange :=
  if request.target.isRequestable then log ++ [made script log request] else log

/-- The requests for a service go to a place whose segment names it: a lookup, and what it is to say
    once it has been found. -/
structure Named (b : Bridge) (root : Url) (service segment : String) : Prop where
  decodes : percentDecode (Text.utf8 segment) = Text.utf8 service
  lookup : ∀ script log, ((bridged (recorded script) b).lookup service log).2 =
    asked script log ⟨.get, root.below ["services", segment], none, []⟩
  speech : ∀ script log voice events log',
    (bridged (recorded script) b).lookup service log = ((.returned (.ok voice), events), log') →
    ∀ text later, ((bridged (recorded script) b).speak voice text later).2 =
      asked script later
        ⟨.post, root.below ["services", segment, "speak"], some "application/json", speechBody text⟩

end Robot

section Places
variable {b : Bridge} {root : Url} {service segment : String}

theorem send_asked (script : Replies) (method : Method) {place : String} {target : Url}
    (reads : Url.ofText? place = some target) (contentType : Option String) (body : Bytes)
    (log : List Exchange) : (send (recorded script) method place contentType body log).2 =
      asked script log ⟨method, target, contentType, body⟩ := by
  cases sendable : target.isRequestable with
  | true => rw [send_recorded script method reads sendable, asked, if_pos sendable]
  | false => simp [send, reads, asked, sendable]

theorem bridged_lookup_eq (script : Replies) (log : List Exchange) :
    (bridged (recorded script) b).lookup service log =
      ((.returned (lookupReply b service (send (recorded script) .get (b.place service) none []
        log).1), [placeEvent (b.place service)]),
      (send (recorded script) .get (b.place service) none [] log).2) := by
  simp only [bridged]

theorem bridged_speak_eq (script : Replies) (voice : Voice) (text : String)
    (log : List Exchange) :
    (bridged (recorded script) b).speak voice text log =
      (.returned (speechReply voice.service (send (recorded script) .post voice.place
        (some "application/json") (speechBody text) log).1),
      (send (recorded script) .post voice.place (some "application/json") (speechBody text)
        log).2) := by
  simp only [bridged]

theorem lookup_voice {script : Replies} {log log' : List Exchange} {voice : Voice}
    {events : List Event}
    (found : (bridged (recorded script) b).lookup service log =
      ((.returned (.ok voice), events), log')) : voice = voiceOf b service := by
  rw [bridged_lookup_eq] at found
  generalize send (recorded script) .get (b.place service) none [] log = sent at found
  obtain ⟨answer, after⟩ := sent
  have reply := (Prod.ext_iff.mp (Prod.ext_iff.mp found).1).1
  cases answer with
  | error cause => cases reply
  | ok answer =>
    simp only [lookupReply] at reply
    split at reply
    · cases reply
      rfl
    · split at reply <;> cases reply

theorem verbatim_named (whole : ∀ c ∈ b.host.toList, endsAuthority c = false)
    (address : Url.ofText? b.address = some root) (verbatim : Verbatim service) :
    Named b root service (segmentOf service) := by
  obtain ⟨services, speak⟩ := plain_words
  have lookup : Url.ofText? (b.place service) =
      some (root.below ["services", segmentOf service]) := by
    have nothing : ∀ s ∈ ([] : List String), Plain s := nofun
    refine address_verbatim whole address services verbatim nothing ?_
    simp [Bridge.place, Bridge.address, addressText, below]
  have speech : Url.ofText? (b.place service ++ "/speak") =
      some (root.below ["services", segmentOf service, "speak"]) := by
    have spoken : ∀ s ∈ ["speak"], Plain s := by simpa using speak
    refine address_verbatim whole address services verbatim spoken ?_
    simp [Bridge.place, Bridge.address, addressText, below]
  refine ⟨(segment_decodes service).trans verbatim.literal, ?_, ?_⟩
  · intro script log
    rw [bridged_lookup_eq, send_asked script .get lookup]
  · intro script log voice events log' found text later
    rw [bridged_speak_eq, lookup_voice found, voiceOf, send_asked script .post speech]

end Places

/-- For a bridge with an address every request for a service with a verbatim name goes to a place of
    its own, and no other name is read as a segment that names it. -/
theorem services_named {b : Bridge} {root : Url}
    (whole : ∀ c ∈ b.host.toList, endsAuthority c = false)
    (address : Url.ofText? b.address = some root) :
    (∀ service, Verbatim service → Named b root service (segmentOf service)) ∧
    (∀ service url segment, Url.ofText? (b.place service) = some url →
      url.path = ["services", segment] → percentDecode (Text.utf8 segment) = Text.utf8 service →
      Verbatim service) ∧
    ∀ service other segment, Named b root service segment → Named b root other segment →
      service = other := by
  refine ⟨fun service => verbatim_named whole address, ?_, ?_⟩
  · intro service url segment reads path names
    refine address_names_verbatim whole address plain_words.1 ?_ reads path names
    simp [Bridge.place, Bridge.address, addressText]
  · intro service other segment named named'
    exact utf8_injective (named.decodes.symm.trans named'.decodes)

theorem lab_whole : ∀ c ∈ lab.host.toList, endsAuthority c = false := by
  have bounded : (lab.host.toList.all fun c => !endsAuthority c) = true := by decide
  exact fun c member => by simpa using List.all_eq_true.mp bounded c member

theorem lab_address : Url.ofText? lab.address = some labRoot := by decide +kernel

theorem lab_services_named :
    Named lab labRoot "Ton 100% \u00e9" "Ton%20100%%20%C3%A9" ∧
    ∀ other, Named lab labRoot other "Ton%20100%%20%C3%A9" → other = "Ton 100% \u00e9" := by
  obtain ⟨named, -, apart⟩ := services_named lab_whole lab_address
  have verbatim : Verbatim "Ton 100% \u00e9" := is_verbatim_iff.mp (by decide +kernel)
  have own : Named lab labRoot "Ton 100% \u00e9" "Ton%20100%%20%C3%A9" := named _ verbatim
  exact ⟨own, fun other named' => apart _ _ _ named' own⟩

theorem lab_reads {place behind : String} {more : List Char} (spelt : place = lab.address ++ behind)
    (start : countedTail behind.toList = '/' :: more) :
    Url.ofText? place = some (labRoot.over ('/' :: more)) :=
  address_over lab_whole lab_address (by rw [spelt, String.toList_append]; rfl) start

/-- A question mark makes a query of what follows it, and a blank at the end is lost. -/
theorem marked_service_asked_elsewhere : ∃ lookup speech : Url,
    (∀ script, ((bridged (recorded script) lab).lookup "a?b" []).2 =
      [made script [] ⟨.get, lookup, none, []⟩]) ∧
    lookup.path = ["services", "a"] ∧ lookup.query = some "b" ∧
    (∀ script text, ((bridged (recorded script) lab).speak (voiceOf lab "a?b") text []).2 =
      [made script [] ⟨.post, speech, some "application/json", speechBody text⟩]) ∧
    speech.path = ["services", "a"] ∧ speech.query = some "b/speak" ∧
    Url.ofText? (lab.place "a ") = Url.ofText? (lab.place "a") := by
  let lookup : Url := { labRoot with path := ["services", "a"], query := some "b" }
  let speech : Url := { labRoot with path := ["services", "a"], query := some "b/speak" }
  have lookupRead : Url.ofText? (lab.place "a?b") = some lookup := by
    have start : countedTail "/services/a?b".toList = '/' :: "services/a?b".toList := by decide
    rw [lab_reads (by simp [Bridge.place, String.append_assoc]) start]
    decide +kernel
  have speechRead : Url.ofText? (lab.place "a?b" ++ "/speak") = some speech := by
    have start : countedTail "/services/a?b/speak".toList = '/' :: "services/a?b/speak".toList := by
      decide
    rw [lab_reads (by simp [Bridge.place, String.append_assoc]) start]
    decide +kernel
  have blank : Url.ofText? (lab.place "a ") = Url.ofText? (lab.place "a") := by
    have start : countedTail "/services/a".toList = '/' :: "services/a".toList := by decide
    have start' : countedTail "/services/a ".toList = '/' :: "services/a".toList := by decide
    rw [lab_reads (by simp [Bridge.place, String.append_assoc]) start',
      lab_reads (by simp [Bridge.place, String.append_assoc]) start]
  refine ⟨lookup, speech, ?_, rfl, rfl, ?_, rfl, rfl, blank⟩
  · intro script
    rw [bridged_lookup_eq, send_asked script .get lookupRead]
    rfl
  · intro script text
    rw [bridged_speak_eq, voiceOf, send_asked script .post speechRead]
    rfl

end CommandGateway
