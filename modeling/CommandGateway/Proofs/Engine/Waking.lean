import CommandGateway.Proofs.Engine.Desks

/- Whatever an errand does in its turn, and whatever is called from outside, no errand is forgotten
   by it. -/
namespace CommandGateway.Engine

open Pool

variable {σ H : Type}

section ErrandTurns
variable {r : Rota σ H} {owner : Owner} {rest : List Thread}

theorem done_wakeful {t : Thread} (wakeful : Wakeful r) (head : r.ready = t :: rest)
    (done : ∀ p standing, t = .errand p → standingOf r.engine p = some standing →
      standing = .finished) : Wakeful r.yield :=
  yield_wakeful wakeful head (fun _ => id) (fun _ => .inl) (fun _ _ => .inl)
    fun p standing own stands => .inl (done p standing own stands)

theorem rouse_wakeful {threads : List Thread} (wakeful : Wakeful r)
    (free : ∀ p, .errand p ∈ threads → Unparked r p) : Wakeful (r.wake threads) :=
  wake_wakeful r.expecting r.stalled wakeful (fun _ => id) (fun _ => .inl) (fun _ => id) free

theorem beside_wakeful (wakeful : Wakeful r) (receivers : List Nat) (gate : Gate)
    (allowance : Nat) :
    Wakeful { r with receivers := receivers, gate := gate, allowance := allowance } := by
  refine ⟨wakeful.order, fun p turn => ?_, wakeful.placed, fun service desk found => ?_,
    wakeful.expecting, wakeful.stalled⟩
  · have apart := wakeful.parked p turn
    exact ⟨apart.line, apart.answer, apart.gate⟩
  · have attended := wakeful.desks service desk found
    exact ⟨attended.unknown, attended.holder, attended.once, attended.line⟩

/-- Only an errand that wants a service has its desk. -/
theorem holder_stands {service : String} {desk : Desk} {standing : Standing} (wakeful : Wakeful r)
    (found : deskOf service r.desks = some desk)
    (stands : standingOf r.engine desk.holder = some standing) :
    standing = .waiting service ∨ ∃ succeeds, standing = .lookingUp service succeeds := by
  rcases (wakeful.desks service desk found).holder with ⟨waits, -⟩ | ⟨succeeds, looks⟩
  · exact .inl (Option.some.inj (stands.symm.trans waits))
  · exact .inr ⟨succeeds, Option.some.inj (stands.symm.trans looks)⟩

theorem idle_wakeful {old new : Errand H} {step : Step} {e : Engine σ H} (wakeful : Wakeful r)
    (turn : .errand owner ∈ r.ready) (steps : StepsOn r.engine owner old new step e)
    (stands : standingOf r.engine owner = some old.standing) (idle : old.standing.service? = none)
    (handles : e.scene.accessor.handles = r.engine.scene.accessor.handles)
    (idle' : new.standing.looksUp? = none) : Wakeful { r with engine := e } := by
  refine step_wakeful owner wakeful (wakeful.parked owner turn) steps.others ?_ ?_ ?_
  · intro service desk found
    rw [handles]
    exact (wakeful.desks service desk found).unknown
  · intro standing stands'
    cases steps.own.symm.trans stands'
    cases now : new.standing with
    | ready => exact turn
    | waiting service => exact .inl turn
    | lookingUp service succeeds => simp [now, Standing.looksUp?] at idle'
    | speaking | finished => trivial
  · intro service desk found holder
    rcases holder_stands wakeful found (holder ▸ stands) with waits | ⟨succeeds, looks⟩
    · simp [waits, Standing.service?] at idle
    · simp [looks, Standing.service?] at idle

theorem advance_wakeful (online : Online r.engine) (wakeful : Wakeful r)
    (turn : .errand owner ∈ r.ready) (stands : standingOf r.engine owner = some .ready) :
    Wakeful (r.play (.step owner .advance)) := by
  obtain ⟨old, new, e, stood, steps, played⟩ := play_steps online stands rfl nofun
  obtain ⟨-, idle, same⟩ := advance_standing steps.stepped
  rw [played]
  exact idle_wakeful wakeful turn steps (stood ▸ stands) (by rw [stood]; rfl) same.handles idle

theorem hear_wakeful {text : String} (online : Online r.engine) (wakeful : Wakeful r)
    (turn : .errand owner ∈ r.ready) (stands : standingOf r.engine owner = some (.speaking text)) :
    Wakeful (r.play (.step owner .hear)) := by
  obtain ⟨old, new, e, stood, steps, played⟩ := play_steps online stands rfl nofun
  obtain ⟨-, ready, same⟩ := hear_standing steps.stepped
  rw [played]
  exact idle_wakeful wakeful turn steps (stood ▸ stands) (by rw [stood]; rfl) (by rw [same])
    (by rw [ready]; rfl)

theorem speak_wakeful {text : String} (online : Online r.engine) (wakeful : Wakeful r)
    (head : r.ready = .errand owner :: rest)
    (stands : standingOf r.engine owner = some (.speaking text)) :
    Wakeful (r.speak owner text) := by
  have turn : .errand owner ∈ r.ready := by simp [head]
  unfold Rota.speak
  split
  · exact hear_wakeful online wakeful turn stands
  · split
    · exact hear_wakeful (r := { r with gate := _ }) online (beside_wakeful wakeful _ _ _) turn
        stands
    · refine yield_wakeful wakeful head (fun _ => id) (fun _ => .inl) ?_ ?_
      · intro p said stalls
        rcases List.mem_append.mp stalls with had | new
        · exact .inl had
        · cases List.mem_singleton.mp new
          exact .inr ⟨rfl, _, stands⟩
      · rintro p standing ⟨⟩ stands'
        exact .inr (.inl ⟨text, Option.some.inj (stands'.symm.trans stands)⟩)

/-- Whoever looks a service up has its desk, so the service is free for whoever has the desk. -/
theorem free_at_desk {service : String} (orderly : Orderly r.engine) (wakeful : Wakeful r)
    (stands : standingOf r.engine owner = some (.waiting service))
    (own : handleFor service r.engine.scene.accessor.handles = none →
      ∃ desk, deskOf service r.desks = some desk ∧ desk.holder = owner) :
    service ∉ r.engine.scene.inFlight := by
  intro flying
  obtain ⟨p, errand, found, looks⟩ := flying_looked_up orderly flying
  obtain ⟨succeeds, standing⟩ : ∃ succeeds, errand.standing = .lookingUp service succeeds := by
    cases standing : errand.standing <;> simp_all [Standing.looksUp?]
  have looks' : standingOf r.engine p = some (.lookingUp service succeeds) := by
    simp [standingOf, found, standing]
  obtain ⟨-, desk, here, holder⟩ := wakeful.placed p _ looks'
  obtain ⟨desk', here', holder'⟩ := own (wakeful.desks service desk here).unknown
  cases here.symm.trans here'
  cases stands.symm.trans ((holder'.symm.trans holder) ▸ looks')

/-- With nobody else's lookup under way, an errand gets the handle that is known or looks the
    service up, for which it needs the desk. -/
theorem look_up_wakeful {service : String} (orderly : Orderly r.engine) (wakeful : Wakeful r)
    (head : r.ready = .errand owner :: rest)
    (stands : standingOf r.engine owner = some (.waiting service))
    (own : handleFor service r.engine.scene.accessor.handles = none →
      ∃ desk, deskOf service r.desks = some desk ∧ desk.holder = owner) :
    Wakeful (r.lookUp owner) := by
  have turn : .errand owner ∈ r.ready := by simp [head]
  have free := free_at_desk orderly wakeful stands own
  obtain ⟨old, new, e, stood, steps, played⟩ :=
    play_steps orderly.online stands rfl (by rintro name ⟨⟩; exact free)
  obtain ⟨name, waited, handles, outcome⟩ := look_up_standing steps.stepped
  cases waited.symm.trans stood
  have unknown : ∀ service desk, deskOf service r.desks = some desk →
      handleFor service e.scene.accessor.handles = none := by
    intro name desk found
    rw [handles]
    exact (wakeful.desks name desk found).unknown
  have held : ∀ name desk, deskOf name r.desks = some desk → desk.holder = owner →
      name = service := by
    intro name desk found holder
    rcases holder_stands wakeful found (holder ▸ stands) with waits | ⟨succeeds, looks⟩
    · cases waits
      rfl
    · cases looks
  have now : (errandOf owner e.errands).map Errand.standing = some new.standing := steps.own
  simp only [Rota.lookUp, played, now]
  rcases outcome with ⟨known, ready⟩ | ⟨vain, succeeds, looks⟩
  · rw [ready]
    refine step_wakeful owner wakeful (wakeful.parked owner turn) steps.others unknown ?_ ?_
    · intro standing stands'
      cases steps.own.symm.trans stands'
      rw [ready]
      exact turn
    · intro name desk found holder
      obtain rfl := held name desk found holder
      exact absurd (wakeful.desks name desk found).unknown known
  · rw [looks]
    have looking : Wakeful { r with engine := e } := by
      refine step_wakeful owner wakeful (wakeful.parked owner turn) steps.others unknown ?_ ?_
      · intro standing stands'
        cases steps.own.symm.trans stands'
        rw [looks]
        exact ⟨.inl turn, own vain⟩
      · intro name desk found holder
        obtain rfl := held name desk found holder
        exact .inr ⟨succeeds, looks ▸ steps.own⟩
    have own := looks ▸ steps.own
    dsimp only
    split
    · refine yield_wakeful looking head (fun p had => List.mem_append_left _ had) ?_
        (fun _ _ => .inl) ?_
      · intro p expects
        rcases List.mem_append.mp expects with had | new
        · exact .inl had
        · cases List.mem_singleton.mp new
          exact .inr ⟨rfl, service, succeeds, own⟩
      · rintro p standing ⟨⟩ stands'
        refine .inr (.inr ⟨⟨service, succeeds, Option.some.inj (stands'.symm.trans own)⟩, ?_⟩)
        exact List.mem_append_right _ List.mem_cons_self
    · exact looking

theorem queue_up_wakeful {service : String} (orderly : Orderly r.engine) (wakeful : Wakeful r)
    (head : r.ready = .errand owner :: rest)
    (stands : standingOf r.engine owner = some (.waiting service)) :
    Wakeful (r.queueUp owner service) := by
  have turn : .errand owner ∈ r.ready := by simp [head]
  unfold Rota.queueUp
  split
  · rename_i handle known
    exact look_up_wakeful orderly wakeful head stands fun unknown => by simp [known] at unknown
  · rename_i unknown
    split
    · rename_i empty
      have desk : deskOf service (r.setDesk service (some ⟨service, owner, []⟩)).desks = some _ :=
        (desk_of_set r service _ (by rintro d ⟨⟩; rfl) service).trans (if_pos rfl)
      exact look_up_wakeful (r := r.setDesk service _) orderly
        (take_desk_wakeful wakeful empty unknown stands turn) head stands fun _ => ⟨_, desk, rfl⟩
    · rename_i desk found
      split
      · rename_i holder
        exact look_up_wakeful orderly wakeful head stands fun _ => ⟨desk, found, holder⟩
      · rename_i other
        exact join_wakeful wakeful head found stands other

theorem answer_wakeful {service : String} {succeeds : Bool} (online : Online r.engine)
    (wakeful : Wakeful r) (turn : .errand owner ∈ r.ready)
    (looks : standingOf r.engine owner = some (.lookingUp service succeeds)) :
    Wakeful ((r.play (.step owner .answer)).leaveDesk service succeeds) := by
  obtain ⟨old, new, e, stood, steps, played⟩ := play_steps online looks rfl nofun
  obtain ⟨name, result, looked, ready, handles⟩ := answer_standing steps.stepped
  cases looked.symm.trans stood
  obtain ⟨-, desk, found, holder⟩ := wakeful.placed owner _ looks
  obtain ⟨called, next, vacates, left⟩ := leave_desk_vacates (r := { r with engine := e }) succeeds
    found (wakeful.desks service desk found).once
  rw [played, left]
  exact vacate_wakeful wakeful turn looks found holder vacates (ready ▸ steps.own) steps.others
    handles

theorem leave_errand_wakeful (wakeful : Wakeful r) (head : r.ready = .errand owner :: rest)
    (ended : standingOf r.engine owner = some .finished) : Wakeful (r.leaveErrand owner) := by
  have yields : Wakeful r.yield := by
    refine done_wakeful wakeful head ?_
    rintro p standing ⟨⟩ stands
    exact Option.some.inj (stands.symm.trans ended)
  unfold Rota.leaveErrand
  split
  · split
    · exact rouse_wakeful yields (by simp)
    · exact yields
  · exact yields

theorem errand_turn_wakeful (orderly : Orderly r.engine) (wakeful : Wakeful r)
    (head : r.ready = .errand owner :: rest) : Wakeful (r.errandTurn owner) := by
  have turn : .errand owner ∈ r.ready := by simp [head]
  unfold Rota.errandTurn
  split
  · rename_i none
    refine done_wakeful wakeful head ?_
    rintro p standing ⟨⟩ stands
    cases none.symm.trans stands
  · rename_i stands
    exact advance_wakeful orderly.online wakeful turn stands
  · rename_i service stands
    exact queue_up_wakeful orderly wakeful head stands
  · rename_i service succeeds stands
    exact answer_wakeful orderly.online wakeful turn stands
  · rename_i text stands
    exact speak_wakeful orderly.online wakeful head stands
  · rename_i stands
    exact leave_errand_wakeful wakeful head stands

end ErrandTurns

section Calls
variable {r : Rota σ H} {e : Engine σ H} {owner : Owner}

theorem unparked_of (wakeful : Wakeful r)
    (idle : ∀ standing, standingOf r.engine owner = some standing → standing = .finished) :
    Unparked r owner := by
  refine ⟨fun service desk found lined => ?_, fun expects => ?_, fun text stalls => ?_⟩
  · cases idle _ ((wakeful.desks service desk found).line owner lined)
  · obtain ⟨service, succeeds, looks⟩ := wakeful.expecting owner expects
    cases idle _ looks
  · obtain ⟨said, speaks⟩ := wakeful.stalled owner text stalls
    cases idle _ speaks

theorem pool_wakeful (wakeful : Wakeful r) (errands : e.errands = r.engine.errands)
    (scene : e.scene = r.engine.scene) : Wakeful { r with engine := e } := by
  have same : ∀ p, standingOf e p = standingOf r.engine p := by simp [standingOf, errands]
  refine ⟨wakeful.order, fun p turn => ?_, fun p standing stands => ?_,
    fun service desk found => ?_, fun p expects => ?_, fun p text stalls => ?_⟩
  · have apart := wakeful.parked p turn
    exact ⟨apart.line, apart.answer, apart.gate⟩
  · exact wakeful.placed p standing (same p ▸ stands)
  · have attended := wakeful.desks service desk found
    refine ⟨scene ▸ attended.unknown, ?_, attended.once, fun p lined => ?_⟩
    · rcases attended.holder with ⟨waits, turn⟩ | ⟨succeeds, looks⟩
      · exact .inl ⟨(same _).trans waits, turn⟩
      · exact .inr ⟨succeeds, (same _).trans looks⟩
    · exact (same p).trans (attended.line p lined)
  · obtain ⟨service, succeeds, looks⟩ := wakeful.expecting p expects
    exact ⟨service, succeeds, (same p).trans looks⟩
  · obtain ⟨said, speaks⟩ := wakeful.stalled p text stalls
    exact ⟨said, (same p).trans speaks⟩

theorem remove_wakeful (wakeful : Wakeful r)
    (ended : standingOf r.engine owner = some .finished)
    (errands : e.errands = removeErrand owner r.engine.errands)
    (scene : e.scene = r.engine.scene) : Wakeful { r with engine := e } := by
  have gone : standingOf e owner = none := by
    have absent : errandOf owner e.errands = none := by
      rw [errands, errand_of_eq_none_iff, remove_owners]
      simp
    simp [standingOf, absent]
  refine step_wakeful owner wakeful ?_ (fun p other => ?_) ?_ ?_ ?_
  · exact unparked_of wakeful fun standing stands => Option.some.inj (stands.symm.trans ended)
  · simp only [standingOf, errands, errand_of_remove (Ne.symm other)]
  · intro service desk found
    exact scene ▸ (wakeful.desks service desk found).unknown
  · intro standing stands
    cases gone.symm.trans stands
  · intro service desk found holder
    rcases holder_stands wakeful found (holder ▸ ended) with waits | ⟨succeeds, looks⟩
    · cases waits
    · cases looks

theorem errand_of_other (new : Errand H) {errands : List (Errand H)} (apart : new.owner ≠ owner) :
    errandOf owner (errands ++ [new]) = errandOf owner errands := by
  simp [errandOf, List.find?_append, apart]

theorem begin_wakeful (new : Errand H) (wakeful : Wakeful r)
    (free : errandOf new.owner r.engine.errands = none) (ready : new.standing = .ready)
    (errands : e.errands = r.engine.errands ++ [new]) (scene : e.scene = r.engine.scene) :
    Wakeful ({ r with engine := e }.wake [.errand new.owner]) := by
  have nobody : standingOf r.engine new.owner = none := by simp [standingOf, free]
  have now : standingOf e new.owner = some .ready := by
    simp [standingOf, errands, errand_of_new new free, ready]
  have apart : Unparked r new.owner :=
    unparked_of wakeful fun standing stands => by cases nobody.symm.trans stands
  have roused : Wakeful (r.wake [.errand new.owner]) := by
    refine rouse_wakeful wakeful fun p member => ?_
    obtain rfl : p = new.owner := by simpa using member
    exact apart
  have turn : .errand new.owner ∈ (r.wake [.errand new.owner]).ready := by
    rw [wake_eq]
    exact ((woken_lasting _ wakeful.order).2 _).mpr (.inr List.mem_cons_self)
  rw [wake_with]
  rw [wake_eq] at roused turn ⊢
  refine step_wakeful new.owner roused ⟨apart.line, apart.answer, apart.gate⟩
    (fun p other => ?_) ?_ ?_ ?_
  · simp only [standingOf, errands, errand_of_other new (Ne.symm other)]
  · intro service desk found
    exact scene ▸ (wakeful.desks service desk found).unknown
  · intro standing stands
    cases now.symm.trans stands
    exact turn
  · intro service desk found holder
    rcases (wakeful.desks service desk found).holder with ⟨waits, -⟩ | ⟨succeeds, looks⟩
    · cases nobody.symm.trans (holder ▸ waits)
    · cases nobody.symm.trans (holder ▸ looks)

theorem answers_wakeful (wakeful : Wakeful r) :
    Wakeful ({ r with expecting := [] }.wake (r.expecting.map .errand)) := by
  refine wake_wakeful [] r.stalled wakeful nofun (fun p expects => .inr ?_) (fun _ => id)
    fun p member => ?_
  · exact List.mem_map_of_mem expects
  · have expects : p ∈ r.expecting := by simpa using member
    obtain ⟨service, succeeds, looks⟩ := wakeful.expecting p expects
    refine ⟨fun name desk found lined => ?_, nofun, fun text stalls => ?_⟩
    · cases looks.symm.trans ((wakeful.desks name desk found).line p lined)
    · obtain ⟨said, speaks⟩ := wakeful.stalled p text stalls
      cases looks.symm.trans speaks

theorem leave_gate_wakeful (stalled : List (Owner × String)) (called : List Owner)
    (wakeful : Wakeful r) (fewer : ∀ p ∈ stalled, p ∈ r.stalled)
    (held : ∀ p ∈ called, ∃ text, (p, text) ∈ r.stalled)
    (gone : ∀ p ∈ called, ∀ text, (p, text) ∉ stalled) :
    Wakeful ({ r with stalled := stalled }.wake (called.map .errand)) := by
  refine wake_wakeful r.expecting stalled wakeful (fun _ => id) (fun _ => .inl) fewer
    fun p member => ?_
  have calls : p ∈ called := by simpa using member
  obtain ⟨text, stalls⟩ := held p calls
  obtain ⟨said, speaks⟩ := wakeful.stalled p text stalls
  refine ⟨fun service desk found lined => ?_, fun expects => ?_, gone p calls⟩
  · cases speaks.symm.trans ((wakeful.desks service desk found).line p lined)
  · obtain ⟨service, succeeds, looks⟩ := wakeful.expecting p expects
    cases speaks.symm.trans looks

theorem open_gate_wakeful (wakeful : Wakeful r) : Wakeful r.openGate := by
  have opened := leave_gate_wakeful [] (r.stalled.map Prod.fst) wakeful nofun
    (by simp) (by simp)
  have same : r.openGate = { r with gate := { r.gate with isOpen := true }, stalled := [] }.wake
      ((r.stalled.map Prod.fst).map .errand) := by
    simp [Rota.openGate, Function.comp_def]
  rw [same, wake_eq]
  rw [wake_eq] at opened
  exact beside_wakeful opened _ _ _

theorem play_wake (m : Move) (threads : List Thread) :
    (r.play m).wake threads = (r.wake threads).play m := by
  rw [wake_eq, wake_eq]
  rfl

theorem release_wakeful (online : Online r.engine) (wakeful : Wakeful r) (text : String) :
    Wakeful (r.release text) := by
  unfold Rota.release
  split
  · rename_i p said held
    have stalls : (p, said) ∈ r.stalled := List.mem_of_find?_eq_some held
    have called := leave_gate_wakeful (r.stalled.filter (·.1 ≠ p)) [p] wakeful
      (fun _ member => (List.mem_filter.mp member).1) (by simpa using ⟨said, stalls⟩) (by simp)
    obtain ⟨heard, speaks⟩ := wakeful.stalled p said stalls
    rw [play_wake]
    rw [wake_eq] at called ⊢
    refine hear_wakeful online called ?_ speaks
    exact ((woken_lasting _ wakeful.order).2 _).mpr (.inr (by simp))
  · exact beside_wakeful wakeful _ _ _

end Calls
end CommandGateway.Engine
