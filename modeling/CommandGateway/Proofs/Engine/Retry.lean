import CommandGateway.Proofs.Engine.OneLookup

/- What a lookup leaves behind. One that came to nothing leaves the cell of its service empty, so
   that the next who wants the service makes a lookup, and other services never notice. -/
namespace CommandGateway.Engine

open Pool

variable {σ H : Type}

/-- Nothing is known of the service, and nobody is about to know. -/
def Free (s : Scene σ H) (service : String) : Prop :=
  service ∉ s.inFlight ∧ handleFor service s.accessor.handles = none

/-- A move ends a lookup of the service without a handle: it is answered otherwise, or whoever made
    it gives up. -/
def InVain (e : Engine σ H) (m : Move) (service : String) : Prop :=
  (∃ owner reply, (owner, GetDeed.answered service reply) ∈ getsOf e m ∧
    ∀ handle, reply ≠ .returned (.ok handle)) ∨
  ∃ n errand, m = .giveUp n ∧ errandOf (.caller n) e.errands = some errand ∧
    errand.standing.looksUp? = some service

section Getting
variable {s s' : Scene σ H} {was is : Standing} {deeds : List (GetDeed H)} {service : String}

theorem getting_answered {reply : Reply H} (getting : Getting s was deeds is s')
    (answered : .answered service reply ∈ deeds) :
    s' = s.answer service reply ∧ was.looksUp? = some service := by
  cases getting with
  | answer name last succeeds =>
    obtain ⟨rfl, rfl⟩ : service = name ∧ reply = last := by simpa using answered
    exact ⟨rfl, rfl⟩
  | _ => simp at answered

theorem getting_one_service {deed other : GetDeed H} (getting : Getting s was deeds is s')
    (here : deed ∈ deeds) (there : other ∈ deeds) : deed.service = other.service := by
  cases getting with
  | apart => simp at here
  | wait | learn | start =>
    rw [List.mem_singleton.mp here, List.mem_singleton.mp there]
  | offline | known | answer =>
    rcases List.mem_pair.mp here with rfl | rfl <;> rcases List.mem_pair.mp there with rfl | rfl <;>
      rfl

theorem getting_apart (getting : Getting s was deeds is s')
    (other : ∀ deed ∈ deeds, deed.service ≠ service) :
    (service ∈ s'.inFlight ↔ service ∈ s.inFlight) ∧
      handleFor service s'.accessor.handles = handleFor service s.accessor.handles ∧
      was.service? ≠ some service ∧ is.service? ≠ some service := by
  cases getting with
  | apart idle idle' same => simp [same.inFlight, same.handles, idle, idle']
  | offline name none same => simp [same.inFlight, same.handles, Standing.service?]
  | known name handle kept => simp [Standing.service?]
  | wait name unknown => simpa [Standing.service?, GetDeed.service] using other
  | learn name handle kept => simpa [Standing.service?, GetDeed.service] using other
  | start name succeeds unknown free connector handles inFlight =>
    have apart : name ≠ service := by simpa [GetDeed.service] using other
    simp [inFlight, handles, Standing.service?, apart, Ne.symm apart]
  | answer name reply succeeds =>
    have apart : name ≠ service := by simpa [GetDeed.service] using other
    refine ⟨?_, handle_for_answer reply (Ne.symm apart), by simpa [Standing.service?] using apart,
      by simp [Standing.service?]⟩
    exact List.mem_erase_of_ne (Ne.symm apart)

theorem failed_frees {errands : List (Errand H)} {log : GetLog H} {reply : Reply H}
    (cells : Cells s errands log) (flying : service ∈ s.inFlight)
    (failed : ∀ handle, reply ≠ .returned (.ok handle)) :
    Free (s.answer service reply) service := by
  have vacant := cells.vacant service flying
  refine ⟨(cells.lookers.distinct.not_mem_erase), ?_⟩
  match reply with
  | .returned (.ok handle) => exact absurd rfl (failed handle)
  | .returned (.error e) => exact vacant
  | .panicked p => exact vacant

end Getting

section Moves
variable {e e' : Engine σ H} {m : Move} {log : GetLog H} {service : String}

theorem vain_frees (moved : Moved e m e') (cells : Cells e.scene e.errands log)
    (vain : InVain e m service) : Free e'.scene service := by
  rcases vain with ⟨owner, reply, answered, failed⟩ | ⟨n, errand, rfl, found, looked⟩
  · cases moved with
    | step owner step errand new scene found stepped =>
      simp only [getsOf, found, List.mem_map, Prod.mk.injEq] at answered
      obtain ⟨deed, member, -, rfl⟩ := answered
      obtain ⟨rfl, looked⟩ := getting_answered (errand_getting stepped) member
      have flying := (cells.lookers.mem_iff service).mpr ⟨errand, (errand_of_some found).1, looked⟩
      exact failed_frees cells flying failed
    | giveUp n errand found =>
      simp only [getsOf, found, List.mem_map, Prod.mk.injEq] at answered
      obtain ⟨deed, member, -, rfl⟩ := answered
      exact absurd rfl (quit_mute errand.standing _ member service reply)
    | _ => simp [getsOf] at answered
  · cases moved with
    | giveUp n other found' =>
      obtain rfl : errand = other := by simpa using found.symm.trans found'
      have flying := (cells.lookers.mem_iff service).mpr ⟨errand, (errand_of_some found).1, looked⟩
      simp only [release_looking looked]
      exact ⟨cells.lookers.distinct.not_mem_erase, cells.vacant service flying⟩

theorem move_one_service {d d' : Owner × GetDeed H} (moved : Moved e m e') (here : d ∈ getsOf e m)
    (there : d' ∈ getsOf e m) : d.2.service = d'.2.service := by
  cases moved with
  | step owner step errand new scene found stepped =>
    simp only [getsOf, found, List.mem_map] at here there
    obtain ⟨deed, member, rfl⟩ := here
    obtain ⟨deed', member', rfl⟩ := there
    exact getting_one_service (errand_getting stepped) member member'
  | giveUp n errand found =>
    simp only [getsOf, found, quitDeeds, List.map_map, List.mem_map, Option.mem_toList]
      at here there
    obtain ⟨name, asked, rfl⟩ := here
    obtain ⟨name', asked', rfl⟩ := there
    exact Option.some.inj (asked.symm.trans asked')
  | _ => simp [getsOf] at here

theorem move_apart (moved : Moved e m e') (owners : (e.errands.map Errand.owner).Nodup)
    (other : ∀ d ∈ getsOf e m, d.2.service ≠ service) :
    (service ∈ e'.scene.inFlight ↔ service ∈ e.scene.inFlight) ∧
      handleFor service e'.scene.accessor.handles = handleFor service e.scene.accessor.handles ∧
      ∀ errand : Errand H, errand.standing.service? = some service →
        (errand ∈ e'.errands ↔ errand ∈ e.errands) := by
  cases m with
  | step owner step =>
    cases moved with
    | step owner step errand new scene found stepped =>
      simp only [getsOf, found] at other
      obtain ⟨flight, handles, was, is⟩ := getting_apart (errand_getting stepped)
        fun deed member => other _ (List.mem_map_of_mem member)
      refine ⟨flight, handles, ?_⟩
      intro waiter wants
      have replaced := step_replaced owners found (errand_step_owner stepped)
      rw [replaced.members, Option.some.injEq]
      constructor
      · rintro (rfl | ⟨here, -⟩)
        · exact absurd wants is
        · exact here
      · intro here
        refine Or.inr ⟨here, ?_⟩
        rintro rfl
        exact was wants
  | giveUp n =>
    cases moved with
    | giveUp n errand found =>
      simp only [getsOf, found] at other
      have apart : errand.standing.service? ≠ some service := by
        intro asked
        refine other (.caller n, .cancelled service) ?_ rfl
        simp [quitDeeds, asked]
      refine ⟨?_, ?_, ?_⟩
      · cases standing : errand.standing with
        | lookingUp name succeeds =>
          have different : name ≠ service := by simpa [Standing.service?, standing] using apart
          exact List.mem_erase_of_ne (Ne.symm different)
        | _ => rfl
      · cases errand.standing <;> rfl
      · intro waiter wants
        have replaced := quit_replaced owners found
        rw [replaced.members]
        simp only [reduceCtorEq, false_or, and_iff_left_iff_imp]
        rintro - rfl
        exact apart wants
  | pool action | request n body | call n name =>
    obtain ⟨scene, engaged⟩ := engaged_same moved owners (by simp) (by simp)
    rw [scene]
    exact ⟨Iff.rfl, rfl, fun errand wants => engaged errand (by simp [wants])⟩

theorem waiting_stage_starts {α : Type} {s : Scene σ H} (owner : Owner) {stage : Stage H α}
    (online : s.accessor.connector ≠ none) (free : Free s service)
    (waits : stage.standing = .waiting service) :
    (∃ next s', stage.step? owner s .lookUp = some (next, s')) ∧
      stage.gets s .lookUp = [.started service] := by
  obtain ⟨connector, online⟩ := Option.ne_none_iff_exists'.mp online
  obtain ⟨grounded, unknown⟩ := free
  cases stage with
  | waiting name next =>
    cases waits
    exact ⟨by simp [Stage.step?, endWait?, online, unknown, grounded],
      by simp [Stage.gets, unknown]⟩
  | _ => cases waits

theorem waiting_starts {s : Scene σ H} {errand : Errand H} (online : s.accessor.connector ≠ none)
    (free : Free s service) (waits : errand.standing = .waiting service) :
    (∃ new s', errand.step? s .lookUp = some (new, s')) ∧
      errand.gets s .lookUp = [.started service] := by
  cases errand with
  | batch id stage =>
    obtain ⟨⟨next, s', step⟩, gets⟩ := waiting_stage_starts (.job id) online free waits
    exact ⟨⟨.batch id next, s', by simp [Errand.step?, Errand.owner, step]⟩, gets⟩
  | payload request stage =>
    obtain ⟨⟨next, s', step⟩, gets⟩ := waiting_stage_starts (.request request) online free waits
    exact ⟨⟨.payload request next, s', by simp [Errand.step?, Errand.owner, step]⟩, gets⟩
  | handle caller stage =>
    obtain ⟨⟨next, s', step⟩, gets⟩ := waiting_stage_starts (.caller caller) online free waits
    exact ⟨⟨.handle caller next, s', by simp [Errand.step?, Errand.owner, step]⟩, gets⟩

theorem waiting_moves {errand : Errand H} (online : e.scene.accessor.connector ≠ none)
    (owners : (e.errands.map Errand.owner).Nodup) (here : errand ∈ e.errands)
    (free : Free e.scene service) (waits : errand.standing = .waiting service) :
    (∃ e', e.move? (.step errand.owner .lookUp) = some e') ∧
      getsOf e (.step errand.owner .lookUp) = [(errand.owner, .started service)] := by
  obtain ⟨⟨new, s', step⟩, gets⟩ := waiting_starts online free waits
  have found := errand_of_mem owners here
  exact ⟨by simp [move?, step?, found, step], by simp [getsOf, found, gets]⟩

theorem later_caller_moves {n : Nat} (online : e.scene.accessor.connector ≠ none)
    (absent : errandOf (.caller n) e.errands = none) (free : Free e.scene service) :
    ∃ e',
      e.run? [.call n service, .step (.caller n) .advance, .step (.caller n) .lookUp] = some e' ∧
      getLog e [.call n service, .step (.caller n) .advance, .step (.caller n) .lookUp] =
        [(.caller n, .asked service), (.caller n, .started service)] := by
  obtain ⟨connector, online⟩ := Option.ne_none_iff_exists'.mp online
  obtain ⟨grounded, unknown⟩ := free
  have one : ∀ stage : Stage H (Reply (Option H)),
      errandOf (.caller n) (e.errands ++ [.handle n stage]) = some (.handle n stage) :=
    fun stage => errand_of_new (.handle n stage) absent
  have replaced : ∀ stage stage' : Stage H (Reply (Option H)),
      replaceErrand (.handle n stage') (e.errands ++ [.handle n stage]) =
        e.errands ++ [.handle n stage'] := by
    intro stage stage'
    have apart : ∀ t ∈ e.errands, t.owner ≠ .caller n := fun t here same =>
      errand_of_eq_none_iff.mp absent (same ▸ List.mem_map_of_mem here)
    simp only [replaceErrand, List.map_append, List.map_cons, List.map_nil, Errand.owner, if_true]
    congr 1
    conv => rhs; rw [← List.map_id e.errands]
    exact List.map_congr_left fun t here => if_neg (apart t here)
  simp [run?, getLog, getsOf, move?, step?, absent, one, replaced, Errand.step?, Stage.step?,
    advance, endWait?, online, unknown, grounded, Errand.gets, Stage.gets, Errand.owner]

end Moves

/-- What can be relied on by all who ask for handles, when they have come this far. -/
structure OneForAll (e : Engine σ H) (log : GetLog H) : Prop where
  one_in_flight : ∀ a ∈ e.errands, ∀ b ∈ e.errands, ∀ service,
    a.standing.looksUp? = some service → b.standing.looksUp? = some service → a = b
  one_success : ∀ service, (successes service log).length ≤ 1
  none_after : ∀ before after owner other service handle,
    log = before ++ (owner, .answered service (.returned (.ok handle))) :: after →
    (other, .started service) ∉ after
  shared : ∀ before after owner service handle,
    log = before ++ (owner, .got service (.returned (.ok (some handle)))) :: after →
    successes service before = [handle]
  own_failure : ∀ before after owner service error,
    log = before ++ (owner, .got service (.returned (.error error))) :: after →
    ∃ earlier, deedsOf owner before =
      earlier ++ [.asked service, .started service, .answered service (.returned (.error error))]
  returned : ∀ n reply, .handle n (.finished reply) ∈ e.errands →
    ∃ earlier service, deedsOf (.caller n) log = earlier ++ [.got service reply]
  emptied : ∀ m e' service, e.move? m = some e' → InVain e m service → Free e'.scene service
  retried : ∀ errand ∈ e.errands, ∀ service, errand.standing = .waiting service →
    Free e.scene service → (∃ e', e.move? (.step errand.owner .lookUp) = some e') ∧
      getsOf e (.step errand.owner .lookUp) = [(errand.owner, .started service)]
  later : ∀ n service, errandOf (.caller n) e.errands = none → Free e.scene service →
    let moves := [.call n service, .step (.caller n) .advance, .step (.caller n) .lookUp]
    (∃ e', e.run? moves = some e') ∧
      getLog e moves = [(.caller n, .asked service), (.caller n, .started service)]
  one_service : ∀ m e', e.move? m = some e' → ∀ d ∈ getsOf e m, ∀ d' ∈ getsOf e m,
    d.2.service = d'.2.service
  apart : ∀ m e' service, e.move? m = some e' → (∀ d ∈ getsOf e m, d.2.service ≠ service) →
    (service ∈ e'.scene.inFlight ↔ service ∈ e.scene.inFlight) ∧
      handleFor service e'.scene.accessor.handles = handleFor service e.scene.accessor.handles ∧
      ∀ errand : Errand H, errand.standing.service? = some service →
        (errand ∈ e'.errands ↔ errand ∈ e.errands)

section Log
variable {log before after : GetLog H} {owner other : Owner} {service : String}

theorem started_unfound {handle : H} (all : AllJustified log)
    (split : log = before ++ (owner, .answered service (.returned (.ok handle))) :: after) :
    (other, .started service) ∉ after := by
  intro started
  obtain ⟨middle, rest, rfl⟩ := List.append_of_mem started
  have justified := all (before ++ (owner, .answered service (.returned (.ok handle))) :: middle)
    (other, .started service) rest (by simp [split])
  simp [Justified, successes] at justified

theorem own_error {error : ActuatorError} (all : AllJustified log)
    (split : log = before ++ (owner, .got service (.returned (.error error))) :: after) :
    ∃ earlier, deedsOf owner before = earlier ++
      [.asked service, .started service, .answered service (.returned (.error error))] := by
  obtain ⟨earlier, lookup, same, own⟩ := all before _ after split
  match lookup with
  | .returned (.ok handle) => cases same
  | .returned (.error e) =>
    cases same
    exact ⟨earlier, own⟩
  | .panicked p => cases same

end Log

theorem one_lookup_serves_all {registry : Registry H} {connector : Connector σ H} {robot : σ}
    {workers capacity retained : Nat} {moves : List Move} {e : Engine σ H}
    (run : (opening registry (.online connector robot) workers capacity retained).run? moves =
      some e) (fresh : (issued (poolActions moves)).Nodup) :
    OneForAll e
      (getLog (opening registry (.online connector robot) workers capacity retained) moves) := by
  obtain ⟨cells, waits⟩ := run_cells run fresh
  have owners := (run_dispatches run fresh).owners
  constructor
  case one_in_flight => exact cells.lookers.alone
  case one_success =>
    intro service
    rw [cells.found]
    cases handleFor service e.scene.accessor.handles <;> simp
  case none_after => exact fun _ _ _ _ _ _ split => started_unfound cells.justified split
  case shared => exact fun before after _ _ _ split => cells.justified before _ after split
  case own_failure => exact fun _ _ _ _ _ split => own_error cells.justified split
  case returned => exact fun n reply member => waits n _ member
  case emptied => exact fun _ _ _ move vain => vain_frees (move_moved move) cells vain
  case retried =>
    exact fun _ here _ waiting free => waiting_moves cells.online owners here free waiting
  case later =>
    intro n service absent free
    obtain ⟨e', run, log⟩ := later_caller_moves cells.online absent free
    exact ⟨⟨e', run⟩, log⟩
  case one_service =>
    exact fun _ _ move _ here _ there => move_one_service (move_moved move) here there
  case apart => exact fun _ _ _ move other => move_apart (move_moved move) owners other

def reluctant : Connector Nat Nat where
  lookup service n :=
    ((.returned (if n = 0 then .error (.serviceNotFound service) else .ok n), []), n + 1)
  speak _ _ n := (.returned (.ok ()), n)
  suspends := true

/-- Two callers want one service; the one whose lookup fails leaves the next lookup to the other,
    and a third one learns what that found. -/
def threeCallers : List Move :=
  [.call 1 "tts", .call 2 "tts", .step (.caller 1) .advance, .step (.caller 2) .advance,
    .step (.caller 1) .lookUp, .step (.caller 1) .answer, .step (.caller 1) .advance,
    .step (.caller 2) .lookUp, .step (.caller 2) .answer, .step (.caller 2) .advance,
    .call 3 "tts", .step (.caller 3) .advance, .step (.caller 3) .advance]

theorem one_lookup_serves_three_callers : ∃ e,
    (opening .empty (.online reluctant 0) 1 1 1).run? threeCallers = some e ∧
    OneForAll e (getLog (opening .empty (.online reluctant 0) 1 1 1) threeCallers) ∧
    e.errands.map Errand.reply? =
      [some (.returned (.error (.serviceNotFound "tts"))), some (.returned (.ok (some 1))),
        some (.returned (.ok (some 1)))] := by
  have run : (opening .empty (.online reluctant 0) 1 1 1).run? threeCallers = some _ := rfl
  exact ⟨_, run, one_lookup_serves_all run (by decide), rfl⟩

end CommandGateway.Engine
