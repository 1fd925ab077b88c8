import CommandGateway.Proofs.Engine.Dispatches
import CommandGateway.Proofs.Engine.Gets

/- One cell for each service. A cell is empty, has one lookup under way, or holds the handle that
   was found; which of these it is follows from what was done, and the other cells do not matter. -/
namespace CommandGateway.Engine

open Pool

variable {σ H : Type}

/-- The lookups under way are those of the errands that make one, each of another service. -/
structure Lookers (errands : List (Errand H)) (inFlight : List String) : Prop where
  distinct : inFlight.Nodup
  mem_iff : ∀ service, service ∈ inFlight ↔
    ∃ errand ∈ errands, errand.standing.looksUp? = some service
  alone : ∀ a ∈ errands, ∀ b ∈ errands, ∀ service,
    a.standing.looksUp? = some service → b.standing.looksUp? = some service → a = b

structure Replaced (owner : Owner) (old : Errand H) (new : Option (Errand H))
    (before after : List (Errand H)) : Prop where
  present : old ∈ before
  owns : old.owner = owner
  only : ∀ errand ∈ before, errand.owner = owner → errand = old
  members : ∀ errand, errand ∈ after ↔ new = some errand ∨ (errand ∈ before ∧ errand ≠ old)
  keeps : ∀ errand, new = some errand → errand.owner = owner

section Lookers
variable {owner : Owner} {old : Errand H} {new : Option (Errand H)}
  {before after : List (Errand H)} {inFlight : List String} {service : String}

theorem lookers_same (replaced : Replaced owner old new before after)
    (idle : old.standing.looksUp? = none)
    (idle' : ∀ errand, new = some errand → errand.standing.looksUp? = none)
    (lookers : Lookers before inFlight) : Lookers after inFlight := by
  have same : ∀ {errand : Errand H} {service}, errand.standing.looksUp? = some service →
      (errand ∈ after ↔ errand ∈ before) := by
    intro errand service looks
    rw [replaced.members]
    constructor
    · rintro (now | ⟨here, -⟩)
      · simp [idle' errand now] at looks
      · exact here
    · intro here
      refine Or.inr ⟨here, ?_⟩
      rintro rfl
      simp [idle] at looks
  refine ⟨lookers.distinct, ?_, ?_⟩
  · intro service
    rw [lookers.mem_iff]
    constructor
    · rintro ⟨errand, here, looks⟩
      exact ⟨errand, (same looks).mpr here, looks⟩
    · rintro ⟨errand, here, looks⟩
      exact ⟨errand, (same looks).mp here, looks⟩
  · intro a here b there service looks looks'
    exact lookers.alone a ((same looks).mp here) b ((same looks').mp there) service looks looks'

theorem lookers_start {now : Errand H} (replaced : Replaced owner old (some now) before after)
    (idle : old.standing.looksUp? = none) (looks : now.standing.looksUp? = some service)
    (free : service ∉ inFlight) (lookers : Lookers before inFlight) :
    Lookers after (service :: inFlight) := by
  have others : ∀ errand ∈ after, errand = now ∨ errand ∈ before := by
    intro errand here
    rcases (replaced.members errand).mp here with same | ⟨here, -⟩
    · exact Or.inl (Option.some.inj same).symm
    · exact Or.inr here
  have nobody : ∀ errand ∈ before, errand.standing.looksUp? ≠ some service :=
    fun errand here looks => free ((lookers.mem_iff service).mpr ⟨errand, here, looks⟩)
  refine ⟨List.nodup_cons.mpr ⟨free, lookers.distinct⟩, ?_, ?_⟩
  · intro name
    rw [List.mem_cons, lookers.mem_iff]
    constructor
    · rintro (rfl | ⟨errand, here, looks'⟩)
      · exact ⟨now, (replaced.members now).mpr (Or.inl rfl), looks⟩
      · refine ⟨errand, (replaced.members errand).mpr (Or.inr ⟨here, ?_⟩), looks'⟩
        rintro rfl
        simp [idle] at looks'
    · rintro ⟨errand, here, looks'⟩
      rcases others errand here with rfl | here
      · exact Or.inl (Option.some.inj (looks'.symm.trans looks))
      · exact Or.inr ⟨errand, here, looks'⟩
  · intro a here b there name looks' looks''
    rcases others a here with rfl | here <;> rcases others b there with rfl | there
    · rfl
    · cases looks'.symm.trans looks
      exact absurd looks'' (nobody b there)
    · cases looks''.symm.trans looks
      exact absurd looks' (nobody a here)
    · exact lookers.alone a here b there name looks' looks''

theorem lookers_end (replaced : Replaced owner old new before after)
    (looked : old.standing.looksUp? = some service)
    (idle : ∀ errand, new = some errand → errand.standing.looksUp? = none)
    (lookers : Lookers before inFlight) : Lookers after (inFlight.erase service) := by
  have others : ∀ {errand : Errand H} {name}, errand.standing.looksUp? = some name →
      (errand ∈ after ↔ errand ∈ before ∧ errand ≠ old) := by
    intro errand name looks
    rw [replaced.members]
    constructor
    · rintro (now | rest)
      · simp [idle errand now] at looks
      · exact rest
    · exact Or.inr
  refine ⟨lookers.distinct.erase service, ?_, ?_⟩
  · intro name
    rw [lookers.distinct.mem_erase_iff, lookers.mem_iff]
    constructor
    · rintro ⟨other, errand, here, looks⟩
      refine ⟨errand, (others looks).mpr ⟨here, ?_⟩, looks⟩
      rintro rfl
      exact other (Option.some.inj (looks.symm.trans looked))
    · rintro ⟨errand, here, looks⟩
      obtain ⟨here, apart⟩ := (others looks).mp here
      refine ⟨?_, errand, here, looks⟩
      rintro rfl
      exact apart (lookers.alone errand here old replaced.present _ looks looked)
  · intro a here b there name looks looks'
    exact lookers.alone a ((others looks).mp here).1 b ((others looks').mp there).1 name looks
      looks'

end Lookers

/-- An errand that has asked for a service has done nothing else since. -/
def Span (log : GetLog H) (owner : Owner) : Standing → Prop
  | .waiting service => ∃ earlier, deedsOf owner log = earlier ++ [.asked service]
  | .lookingUp service _ =>
    ∃ earlier, deedsOf owner log = earlier ++ [.asked service, .started service]
  | _ => True

structure Cells (s : Scene σ H) (errands : List (Errand H)) (log : GetLog H) : Prop where
  online : s.accessor.connector ≠ none
  lookers : Lookers errands s.inFlight
  vacant : ∀ service ∈ s.inFlight, handleFor service s.accessor.handles = none
  found : ∀ service, successes service log = (handleFor service s.accessor.handles).toList
  spans : ∀ errand ∈ errands, Span log errand.owner errand.standing
  justified : AllJustified log

section Steps
variable {s s' : Scene σ H} {owner : Owner} {old new : Errand H} {before after : List (Errand H)}
  {log : GetLog H} {deeds : List (GetDeed H)} {service : String}

theorem span_idle {standing : Standing} (idle : standing.service? = none) :
    Span log owner standing := by
  cases standing <;> first | exact True.intro | cases idle

theorem spans_replaced {new : Option (Errand H)} (deeds : List (GetDeed H))
    (replaced : Replaced owner old new before after)
    (span : ∀ errand, new = some errand →
      Span (log ++ deeds.map (owner, ·)) owner errand.standing)
    (spans : ∀ errand ∈ before, Span log errand.owner errand.standing) :
    ∀ errand ∈ after, Span (log ++ deeds.map (owner, ·)) errand.owner errand.standing := by
  intro errand here
  rcases (replaced.members errand).mp here with now | ⟨here, other⟩
  · rw [replaced.keeps errand now]
    exact span errand now
  · have apart : owner ≠ errand.owner :=
      fun same => other (replaced.only errand here same.symm)
    have same : deedsOf errand.owner (log ++ deeds.map (owner, ·)) = deedsOf errand.owner log := by
      rw [deeds_append, deeds_other apart, List.append_nil]
    have kept := spans errand here
    cases standing : errand.standing with
    | waiting service => simpa [Span, same, standing] using kept
    | lookingUp service succeeds => simpa [Span, same, standing] using kept
    | _ => exact span_idle rfl

theorem handle_for_keep (accessor : Accessor σ H) (handle : H) (name : String) :
    handleFor name (accessor.keep service (.returned (.ok handle))).handles =
      if name = service then some handle else handleFor name accessor.handles := by
  by_cases same : name = service
  · simp [Accessor.keep, handleFor, same]
  · simp [Accessor.keep, handleFor, same, Ne.symm same]

def Mute (deed : GetDeed H) : Prop := ∀ service reply, deed ≠ .answered service reply

theorem successes_mute (mute : ∀ deed ∈ deeds, Mute deed) :
    successes service (log ++ deeds.map (owner, ·)) = successes service log := by
  rw [successes_append]
  suffices nothing : successes service (deeds.map (owner, ·)) = [] by
    rw [nothing, List.append_nil]
  refine List.filterMap_eq_nil_iff.mpr ?_
  intro d member
  obtain ⟨deed, here, rfl⟩ := List.mem_map.mp member
  cases deed with
  | answered name reply => exact absurd rfl (mute _ here name reply)
  | _ => rfl

theorem found_answer (owner : Owner) (reply : Reply H)
    (vacant : handleFor service s.accessor.handles = none)
    (found : ∀ name, successes name log = (handleFor name s.accessor.handles).toList)
    (name : String) :
    successes name (log ++ [(owner, .answered service reply)]) =
      (handleFor name (s.answer service reply).accessor.handles).toList := by
  rw [successes_append, found name]
  match reply with
  | .returned (.ok handle) =>
    simp only [Scene.answer, handle_for_keep]
    by_cases same : name = service
    · subst same
      simp [vacant, successes]
    · simp [successes, same, Ne.symm same]
  | .returned (.error e) => simp [successes, Scene.answer, Accessor.keep]
  | .panicked p => simp [successes, Scene.answer, Accessor.keep]

theorem cells_idle (replaced : Replaced owner old (some new) before after)
    (idle : old.standing.looksUp? = none) (idle' : new.standing.looksUp? = none)
    (same : s.Same s') (mute : ∀ deed ∈ deeds, Mute deed)
    (span : Span (log ++ deeds.map (owner, ·)) owner new.standing)
    (justified : AllJustified (log ++ deeds.map (owner, ·))) (cells : Cells s before log) :
    Cells s' after (log ++ deeds.map (owner, ·)) := by
  refine ⟨same.connector ▸ cells.online, ?_, ?_, ?_, ?_, justified⟩
  · rw [same.inFlight]
    refine lookers_same replaced idle ?_ cells.lookers
    rintro errand ⟨⟩
    exact idle'
  · rw [same.inFlight, same.handles]
    exact cells.vacant
  · intro service
    rw [successes_mute mute, same.handles]
    exact cells.found service
  · refine spans_replaced _ replaced ?_ cells.spans
    rintro errand ⟨⟩
    exact span

theorem handle_for_answer (reply : Reply H) {name : String} (other : name ≠ service) :
    handleFor name (s.answer service reply).accessor.handles =
      handleFor name s.accessor.handles := by
  match reply with
  | .returned (.ok handle) => simp [Scene.answer, handle_for_keep, other]
  | .returned (.error e) => rfl
  | .panicked p => rfl

theorem two_deeds (first second : GetDeed H) :
    log ++ [first, second].map (owner, ·) =
      (log ++ [(owner, first)]) ++ [second].map (owner, ·) := by
  simp

theorem justified_answer {reply : Reply H} (vacant : handleFor service s.accessor.handles = none)
    (found' : ∀ name, successes name log = (handleFor name s.accessor.handles).toList)
    (span : ∃ earlier, deedsOf owner log = earlier ++ [.asked service, .started service])
    (justified : AllJustified log) :
    AllJustified (log ++ [.answered service reply, .got service (found reply)].map (owner, ·)) := by
  have first : AllJustified (log ++ [(owner, .answered service reply)]) :=
    justified_append justified True.intro
  rw [two_deeds]
  refine justified_append first ?_
  obtain ⟨earlier, own⟩ := span
  have all : deedsOf owner (log ++ [(owner, .answered service reply)]) =
      earlier ++ [.asked service, .started service, .answered service reply] := by
    rw [deeds_append, own]
    simp [deedsOf]
  rcases reply with (e | handle) | p
  · exact ⟨earlier, _, rfl, all⟩
  · simpa [Justified, found, Scene.answer, handle_for_keep] using
      found_answer owner (.returned (.ok handle)) vacant found' service
  · exact ⟨earlier, _, rfl, all⟩

theorem answer_cells {reply : Reply H} (replaced : Replaced owner old (some new) before after)
    (looked : old.standing.looksUp? = some service) (idle : new.standing.service? = none)
    (idle' : new.standing.looksUp? = none)
    (span : ∃ earlier, deedsOf owner log = earlier ++ [.asked service, .started service])
    (cells : Cells s before log) :
    Cells (s.answer service reply) after
      (log ++ [.answered service reply, .got service (found reply)].map (owner, ·)) := by
  have here : service ∈ s.inFlight :=
    (cells.lookers.mem_iff service).mpr ⟨old, replaced.present, looked⟩
  have vacant := cells.vacant service here
  refine ⟨?_, ?_, ?_, ?_, ?_, justified_answer vacant cells.found span cells.justified⟩
  · simpa [Scene.answer, keep_connector] using cells.online
  · refine lookers_end replaced looked ?_ cells.lookers
    rintro errand ⟨⟩
    exact idle'
  · intro name flying
    obtain ⟨other, before⟩ := (cells.lookers.distinct.mem_erase_iff).mp flying
    rw [handle_for_answer reply other]
    exact cells.vacant name before
  · intro name
    rw [two_deeds, successes_mute (by simp [Mute])]
    exact found_answer owner reply vacant cells.found name
  · refine spans_replaced _ replaced ?_ cells.spans
    rintro errand ⟨⟩
    exact span_idle idle

theorem start_cells {succeeds : Bool} (replaced : Replaced owner old (some new) before after)
    (waits : old.standing = .waiting service) (looks : new.standing = .lookingUp service succeeds)
    (unknown : handleFor service s.accessor.handles = none) (free : service ∉ s.inFlight)
    (connector : s'.accessor.connector = s.accessor.connector)
    (handles : s'.accessor.handles = s.accessor.handles)
    (inFlight : s'.inFlight = service :: s.inFlight) (cells : Cells s before log) :
    Cells s' after (log ++ [.started service].map (owner, ·)) := by
  obtain ⟨earlier, own⟩ : ∃ earlier, deedsOf owner log = earlier ++ [.asked service] := by
    simpa [Span, waits, replaced.owns] using cells.spans old replaced.present
  refine ⟨connector ▸ cells.online, ?_, ?_, ?_, ?_, ?_⟩
  · rw [inFlight]
    refine lookers_start replaced ?_ ?_ free cells.lookers
    · rw [waits]; rfl
    · rw [looks]; rfl
  · rw [inFlight, handles]
    intro name flying
    rcases List.mem_cons.mp flying with rfl | before
    · exact unknown
    · exact cells.vacant name before
  · intro name
    rw [successes_mute (by simp [Mute]), handles]
    exact cells.found name
  · refine spans_replaced _ replaced ?_ cells.spans
    rintro errand ⟨⟩
    rw [looks, Span, deeds_append, own, deeds_own]
    exact ⟨earlier, by simp⟩
  · refine justified_append cells.justified ?_
    simp [Justified, cells.found, unknown]

theorem justified_asked (owner : Owner) (service : String) (justified : AllJustified log) :
    AllJustified (log ++ [.asked service].map (owner, ·)) :=
  justified_append justified True.intro

theorem justified_kept {handle : H} (kept : handleFor service s.accessor.handles = some handle)
    (found : ∀ name, successes name log = (handleFor name s.accessor.handles).toList)
    (justified : AllJustified log) :
    AllJustified (log ++ [.got service (.returned (.ok (some handle)))].map (owner, ·)) := by
  refine justified_append justified ?_
  simp [Justified, found, kept]

theorem no_lookup {standing : Standing} (idle : standing.service? = none) :
    standing.looksUp? = none := by
  cases standing <;> first | rfl | cases idle

theorem getting_cells (replaced : Replaced owner old (some new) before after)
    (getting : Getting s old.standing deeds new.standing s') (cells : Cells s before log) :
    Cells s' after (log ++ deeds.map (owner, ·)) := by
  generalize standing : old.standing = was at getting
  generalize standing' : new.standing = is at getting
  have steady : s.Same s := ⟨rfl, rfl, rfl⟩
  cases getting with
  | apart idle idle' same =>
    refine cells_idle replaced (no_lookup (standing ▸ idle)) (no_lookup (standing' ▸ idle')) same
      (by simp) (span_idle (standing' ▸ idle')) ?_ cells
    simpa using cells.justified
  | offline service none same => exact absurd none cells.online
  | known service handle kept =>
    refine cells_idle replaced (by rw [standing]; rfl) (by rw [standing']; rfl) steady
      (by simp [Mute]) (span_idle (by rw [standing']; rfl)) ?_ cells
    have asked := justified_asked owner service cells.justified
    rw [two_deeds]
    refine justified_kept kept ?_ asked
    intro name
    rw [← cells.found name]
    have mute : ∀ deed ∈ [GetDeed.asked (H := H) service], Mute deed := by simp [Mute]
    exact successes_mute mute
  | wait service unknown =>
    refine cells_idle replaced (by rw [standing]; rfl) (by rw [standing']; rfl) steady
      (by simp [Mute]) ?_ (justified_asked owner service cells.justified) cells
    rw [standing', Span, deeds_append, deeds_own]
    exact ⟨_, rfl⟩
  | learn service handle kept =>
    exact cells_idle replaced (by rw [standing]; rfl) (by rw [standing']; rfl) steady
      (by simp [Mute]) (span_idle (by rw [standing']; rfl))
      (justified_kept kept cells.found cells.justified) cells
  | start service succeeds unknown free connector handles inFlight =>
    exact start_cells replaced standing standing' unknown free connector handles inFlight cells
  | answer service reply succeeds =>
    refine answer_cells replaced ?_ ?_ ?_ ?_ cells
    · rw [standing]; rfl
    · rw [standing']; rfl
    · rw [standing']; rfl
    · simpa [Span, standing, replaced.owns] using cells.spans old replaced.present

def quitDeeds (standing : Standing) : List (GetDeed H) :=
  standing.service?.toList.map .cancelled

theorem quit_mute (standing : Standing) :
    ∀ deed ∈ quitDeeds (H := H) standing, Mute deed := by
  intro deed member
  obtain ⟨service, -, rfl⟩ := List.mem_map.mp member
  simp [Mute]

theorem justified_quit (owner : Owner) (standing : Standing) (justified : AllJustified log) :
    AllJustified (log ++ (quitDeeds standing).map (owner, ·)) := by
  unfold quitDeeds
  cases standing.service? with
  | none => simpa using justified
  | some service => exact justified_append justified True.intro

theorem release_idle {standing : Standing} (idle : standing.looksUp? = none) :
    s.release standing = s := by
  cases standing <;> first | rfl | cases idle

theorem release_looking {standing : Standing} (looked : standing.looksUp? = some service) :
    s.release standing = { s with inFlight := s.inFlight.erase service } := by
  cases standing <;> cases looked
  rfl

theorem quit_cells (replaced : Replaced owner old none before after)
    (cells : Cells s before log) :
    Cells (s.release old.standing) after
      (log ++ (quitDeeds old.standing).map (owner, ·)) := by
  have spans := spans_replaced (quitDeeds old.standing) replaced (by simp) cells.spans
  have justified := justified_quit owner old.standing cells.justified
  have found : ∀ service, successes service (log ++ (quitDeeds old.standing).map (owner, ·)) =
      (handleFor service s.accessor.handles).toList := by
    intro service
    rw [successes_mute (quit_mute _)]
    exact cells.found service
  cases looked : old.standing.looksUp? with
  | none =>
    rw [release_idle looked]
    exact ⟨cells.online, lookers_same replaced looked (by simp) cells.lookers, cells.vacant, found,
      spans, justified⟩
  | some service =>
    rw [release_looking looked]
    refine ⟨cells.online, lookers_end replaced looked (by simp) cells.lookers, ?_, found, spans,
      justified⟩
    exact fun name flying => cells.vacant name (List.mem_of_mem_erase flying)

theorem lookers_others {inFlight : List String}
    (engaged : ∀ errand : Errand H, errand.standing.service? ≠ none →
      (errand ∈ after ↔ errand ∈ before)) (lookers : Lookers before inFlight) :
    Lookers after inFlight := by
  have looking : ∀ {errand : Errand H} {service}, errand.standing.looksUp? = some service →
      (errand ∈ after ↔ errand ∈ before) := by
    intro errand service looks
    refine engaged errand fun idle => ?_
    simp [no_lookup idle] at looks
  refine ⟨lookers.distinct, ?_, ?_⟩
  · intro service
    rw [lookers.mem_iff]
    constructor
    · rintro ⟨errand, here, looks⟩
      exact ⟨errand, (looking looks).mpr here, looks⟩
    · rintro ⟨errand, here, looks⟩
      exact ⟨errand, (looking looks).mp here, looks⟩
  · intro a here b there service looks looks'
    exact lookers.alone a ((looking looks).mp here) b ((looking looks').mp there) service
      looks looks'

theorem cells_others (engaged : ∀ errand : Errand H, errand.standing.service? ≠ none →
      (errand ∈ after ↔ errand ∈ before)) (cells : Cells s before log) : Cells s after log := by
  refine ⟨cells.online, lookers_others engaged cells.lookers, cells.vacant, cells.found, ?_,
    cells.justified⟩
  intro errand here
  by_cases idle : errand.standing.service? = none
  · exact span_idle idle
  · exact cells.spans errand ((engaged errand idle).mp here)

end Steps
end CommandGateway.Engine
