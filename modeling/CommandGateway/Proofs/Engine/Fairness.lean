import CommandGateway.Proofs.Engine.OneLookup
import Mathlib.Order.Nat

/- Errands that get their turns. If no step is left out for ever that is possible again and again,
   every errand comes to its end, whatever the robot answers and whatever others do meanwhile. -/
namespace CommandGateway.Engine

variable {σ H α : Type}

section Progress

def Stage.Next (σ : Type) (later earlier : Stage H α) : Prop :=
  ∃ (owner : Owner) (s s' : Scene σ H) (step : Step), Stepped owner s step earlier later s'

theorem acc_of_stepped {stage : Stage H α}
    (all : ∀ {owner s s' step later}, Stepped (σ := σ) owner s step stage later s' →
      Acc (Stage.Next σ) later) : Acc (Stage.Next σ) stage := by
  refine .intro _ ?_
  rintro later ⟨owner, s, s', step, stepped⟩
  exact all stepped

section Answers
variable {next : Reply (Option H) → Work H α}

theorem looking_up_acc (all : ∀ reply, Acc (Stage.Next σ) (.ready (next reply)))
    (service : String) (reply : Reply H) : Acc (Stage.Next σ) (.lookingUp service reply next) := by
  refine acc_of_stepped fun stepped => ?_
  cases stepped
  exact all _

theorem waiting_acc (all : ∀ reply, Acc (Stage.Next σ) (.ready (next reply))) (service : String) :
    Acc (Stage.Next σ) (.waiting service next) := by
  refine acc_of_stepped fun stepped => ?_
  cases stepped with
  | learn => exact all _
  | lookUp => exact looking_up_acc all service _

theorem speaking_acc {next : Reply Unit → Work H α}
    (all : ∀ reply, Acc (Stage.Next σ) (.ready (next reply))) (text : String) (reply : Reply Unit) :
    Acc (Stage.Next σ) (.speaking text reply next) := by
  refine acc_of_stepped fun stepped => ?_
  cases stepped
  exact all reply

theorem finished_acc (result : α) : Acc (Stage.Next σ) (Stage.finished (H := H) result) := by
  refine acc_of_stepped fun stepped => ?_
  cases stepped

end Answers

/-- By induction on the work, since a call only adds the stages before its answer. -/
theorem ready_acc (work : Work H α) : Acc (Stage.Next σ) (.ready work) := by
  induction work with
  | done result =>
    refine acc_of_stepped fun stepped => ?_
    cases stepped
    exact finished_acc result
  | log event next ih =>
    refine acc_of_stepped fun stepped => ?_
    cases stepped
    exact ih
  | acquire service next ih =>
    refine acc_of_stepped fun stepped => ?_
    cases stepped with
    | offline | known => exact ih _
    | wait => exact waiting_acc ih service
  | speak handle text next ih =>
    refine acc_of_stepped fun stepped => ?_
    cases stepped
    exact speaking_acc ih text _

theorem stage_acc (stage : Stage H α) : Acc (Stage.Next σ) stage := by
  cases stage with
  | ready work => exact ready_acc work
  | waiting service next => exact waiting_acc (fun reply => ready_acc (next reply)) service
  | lookingUp service reply next =>
    exact looking_up_acc (fun reply => ready_acc (next reply)) service reply
  | speaking text reply next => exact speaking_acc (fun reply => ready_acc (next reply)) text reply
  | finished result => exact finished_acc result

def Errand.Next (σ : Type) (later earlier : Errand H) : Prop :=
  ∃ (s s' : Scene σ H) (step : Step), earlier.step? s step = some (later, s')

theorem errand_acc (errand : Errand H) : Acc (Errand.Next σ) errand := by
  cases errand <;>
  · rename_i name stage
    induction stage_acc (σ := σ) stage with
    | intro stage _ ih =>
      refine .intro _ ?_
      rintro later ⟨s, s', step, stepped⟩
      cases errand_stepped stepped with
      | _ _ _ stage' moved => exact ih stage' ⟨_, s, s', step, moved⟩

end Progress

def Online (e : Engine σ H) : Prop :=
  ∀ errand ∈ e.errands, errand.standing.service? ≠ none → e.scene.accessor.connector ≠ none

/-- Errands that do not get in each other's way for ever: each owner has one, each lookup under way
    is somebody's, and nobody waits for a service without a robot. -/
structure Orderly (e : Engine σ H) : Prop where
  owners : (e.errands.map Errand.owner).Nodup
  lookers : Lookers e.errands e.scene.inFlight
  online : ∀ errand ∈ e.errands, errand.standing.service? ≠ none →
    e.scene.accessor.connector ≠ none

section Order
variable {e e' : Engine σ H} {m : Move} {s s' : Scene σ H} {owner : Owner}
  {old new : Errand H} {before after : List (Errand H)} {deeds : List (GetDeed H)}

theorem getting_lookers (replaced : Replaced owner old (some new) before after)
    (getting : Getting s old.standing deeds new.standing s')
    (lookers : Lookers before s.inFlight) : Lookers after s'.inFlight := by
  generalize standing : old.standing = was at getting
  generalize standing' : new.standing = is at getting
  have same : was.looksUp? = none → is.looksUp? = none → Lookers after s.inFlight := by
    intro idle idle'
    refine lookers_same replaced (standing ▸ idle) ?_ lookers
    rintro errand ⟨⟩
    exact standing' ▸ idle'
  cases getting with
  | apart idle idle' steady => exact steady.inFlight ▸ same (no_lookup idle) (no_lookup idle')
  | offline service none steady => exact steady.inFlight ▸ same rfl rfl
  | known | wait | learn => exact same rfl rfl
  | start service succeeds unknown free connector handles inFlight =>
    rw [inFlight]
    exact lookers_start replaced (by rw [standing]; rfl) (by rw [standing']; rfl) free lookers
  | answer service reply succeeds =>
    refine lookers_end replaced (by rw [standing]; rfl) ?_ lookers
    rintro errand ⟨⟩
    rw [standing']
    rfl

theorem stepped_online {step : Step} {stage stage' : Stage H α}
    (stepped : Stepped owner s step stage stage' s') (engaged : stage'.standing.service? ≠ none) :
    s.accessor.connector ≠ none := by
  cases stepped with
  | wait _ _ online => exact online
  | lookUp _ _ connector online => simp [online]
  | _ => exact absurd rfl engaged

theorem errand_online {step : Step} {errand : Errand H}
    (stepped : errand.step? s step = some (new, s')) :
    s'.accessor.connector = s.accessor.connector ∧
      (new.standing.service? ≠ none → s.accessor.connector ≠ none) := by
  cases errand_stepped stepped with
  | batch _ _ _ moved | payload _ _ _ moved | handle _ _ _ moved =>
    exact ⟨stepped_connector moved, stepped_online moved⟩

theorem release_accessor (standing : Standing) :
    (s.release standing).accessor = s.accessor := by
  cases standing <;> rfl

theorem move_online (moved : Moved e m e') (owners : (e.errands.map Errand.owner).Nodup)
    (online : Online e) : Online e' := by
  cases m with
  | giveUp n =>
    cases moved with
    | giveUp _ errand found =>
      intro other here engaged
      rw [release_accessor]
      exact online other (mem_remove_iff.mp here).1 engaged
  | step owner step =>
    cases moved with
    | step _ _ errand new scene found stepped =>
      have replaced := step_replaced owners found (errand_step_owner stepped)
      obtain ⟨connector, waits⟩ := errand_online stepped
      intro other here engaged
      rw [connector]
      rcases (replaced.members other).mp here with now | ⟨here, -⟩
      · exact waits (Option.some.inj now ▸ engaged)
      · exact online other here engaged
  | pool | request | call =>
    obtain ⟨scene, engaged⟩ := engaged_same moved owners (by simp) (by simp)
    intro other here waits
    rw [scene]
    exact online other ((engaged other waits).mp here) waits

theorem move_orderly (moved : Moved e m e') (stay : ∀ n, m ≠ .giveUp n)
    (owners : (e'.errands.map Errand.owner).Nodup) (orderly : Orderly e) : Orderly e' := by
  refine ⟨owners, ?_, move_online moved orderly.owners orderly.online⟩
  have lookers := orderly.lookers
  cases m with
  | giveUp n => exact absurd rfl (stay n)
  | step owner step =>
    cases moved with
    | step _ _ errand new scene found stepped =>
      have replaced := step_replaced orderly.owners found (errand_step_owner stepped)
      exact getting_lookers replaced (errand_getting stepped) lookers
  | pool | request | call =>
    obtain ⟨scene, engaged⟩ := engaged_same moved orderly.owners (by simp) (by simp)
    rw [← scene] at lookers
    exact lookers_others engaged lookers

end Order

inductive Passes (e e' : Engine σ H) : Option (Owner × Step) → Prop
  | step (owner : Owner) (step : Step) (move : e.step? owner step = some e') :
      Passes e e' (some (owner, step))
  | other (scene : e'.scene = e.scene)
      (kept : ∀ owner errand, errandOf owner e.errands = some errand →
        errand.standing ≠ .finished → errandOf owner e'.errands = some errand) : Passes e e' none

theorem moved_passes {e e' : Engine σ H} {m : Move} (moved : Moved e m e')
    (apart : ∀ owner step, m ≠ .step owner step) (stay : ∀ n, m ≠ .giveUp n) :
    Passes e e' none := by
  cases moved with
  | begin | request | call =>
    exact .other rfl fun owner errand found unfinished => errand_of_append found _
  | collect w result job pool running ended acted =>
    refine .other rfl fun owner errand found unfinished => ?_
    refine (errand_of_remove fun same => ?_).trans found
    obtain ⟨last, here, report⟩ := Option.bind_eq_some_iff.mp ended
    obtain rfl : last = errand := Option.some.inj (here.symm.trans (same ▸ found))
    exact unfinished (report_finished report)
  | other action pool plain acted => exact .other rfl fun owner errand found unfinished => found
  | giveUp n => exact absurd rfl (stay n)
  | step owner step => exact absurd rfl (apart owner step)

def CanStep (e : Engine σ H) (owner : Owner) (step : Step) : Prop :=
  ∃ e', e.step? owner step = some e'

/-- A step that is possible again and again is taken again and again. -/
def Fair (engines : Nat → Engine σ H) (turns : Nat → Option (Owner × Step)) : Prop :=
  ∀ owner step, (∀ start, ∃ n, start ≤ n ∧ CanStep (engines n) owner step) →
    ∀ start, ∃ n, start ≤ n ∧ turns n = some (owner, step)

section Steps
variable {e e' : Engine σ H} {owner : Owner} {errand : Errand H} {service : String}

def Standing.step? : Standing → Option Step
  | .ready => some .advance
  | .waiting _ => some .lookUp
  | .lookingUp _ _ => some .answer
  | .speaking _ => some .hear
  | .finished => none

theorem step_errand {step : Step} (move : e.step? owner step = some e') :
    ∃ old new scene, errandOf owner e.errands = some old ∧
      old.step? e.scene step = some (new, scene) ∧ new.owner = owner ∧
      e' = { e with scene := scene, errands := replaceErrand new e.errands } := by
  cases move_moved (m := .step owner step) move with
  | step _ _ old new scene found stepped =>
    have owns := (errand_step_owner stepped).trans (errand_of_some found).2
    exact ⟨old, new, scene, found, stepped, owns, rfl⟩

theorem stage_can_step (owner : Owner) {s : Scene σ H} {stage : Stage H α} {step : Step}
    (online : stage.standing.service? ≠ none → s.accessor.connector ≠ none)
    (due : stage.standing.step? = some step)
    (free : ∀ service, stage.standing = .waiting service → service ∉ s.inFlight) :
    ∃ next, stage.step? owner s step = some next := by
  cases stage with
  | waiting service next =>
    cases due
    obtain ⟨connector, online⟩ := Option.ne_none_iff_exists'.mp (online nofun)
    have free := free service rfl
    cases known : handleFor service s.accessor.handles <;>
      simp [Stage.step?, endWait?, online, known, free]
  | finished result => cases due
  | _ =>
    cases due
    exact ⟨_, rfl⟩

theorem finished_still (ended : ∀ errand ∈ e.errands, errand.standing = .finished) (step : Step) :
    ¬ CanStep e owner step := by
  rintro ⟨e', move⟩
  obtain ⟨old, new, scene, found, stepped, -⟩ := step_errand move
  have finished := ended old (errand_of_some found).1
  cases errand_stepped stepped with
  | batch _ _ _ moved | payload _ _ _ moved | handle _ _ _ moved => cases moved <;> cases finished

/-- Only somebody else's lookup of the service can keep an errand from its next step. -/
theorem errand_can_step (online : Online e) {step : Step}
    (found : errandOf owner e.errands = some errand) (due : errand.standing.step? = some step)
    (free : ∀ service, errand.standing = .waiting service → service ∉ e.scene.inFlight) :
    CanStep e owner step := by
  have online := online errand (errand_of_some found).1
  have goes : ∃ next, errand.step? e.scene step = some next := by
    cases errand <;>
    · obtain ⟨next, goes⟩ := stage_can_step (Errand.owner _) online due free
      exact ⟨_, Option.map_eq_some_iff.mpr ⟨next, goes, rfl⟩⟩
  obtain ⟨⟨new, scene⟩, goes⟩ := goes
  refine ⟨{ e with scene := scene, errands := replaceErrand new e.errands }, ?_⟩
  simp only [step?, found, goes]

theorem flying_looked_up (orderly : Orderly e) (flying : service ∈ e.scene.inFlight) :
    ∃ owner errand, errandOf owner e.errands = some errand ∧
      errand.standing.looksUp? = some service := by
  obtain ⟨errand, here, looks⟩ := (orderly.lookers.mem_iff service).mp flying
  exact ⟨errand.owner, errand, errand_of_mem orderly.owners here, looks⟩

theorem stepped_answers {s s' : Scene σ H} {new : Errand H} {step : Step}
    (looks : errand.standing.looksUp? = some service)
    (stepped : errand.step? s step = some (new, s')) : s'.inFlight = s.inFlight.erase service := by
  have getting := errand_getting stepped
  generalize errand.standing = was at looks getting
  generalize new.standing = is at getting
  generalize errand.gets s step = deeds at getting
  cases getting with
  | apart idle => simp [no_lookup idle] at looks
  | answer name reply succeeds =>
    obtain rfl : name = service := Option.some.inj looks
    rfl
  | _ => cases looks

theorem looker_frees (orderly : Orderly e) (found : errandOf owner e.errands = some errand)
    (looks : errand.standing.looksUp? = some service) {step : Step}
    (move : e.step? owner step = some e') : service ∉ e'.scene.inFlight := by
  obtain ⟨old, new, scene, here, stepped, -, rfl⟩ := step_errand move
  obtain rfl : errand = old := Option.some.inj (found.symm.trans here)
  rw [stepped_answers looks stepped]
  exact orderly.lookers.distinct.not_mem_erase

end Steps

section Schedules
variable {engines : Nat → Engine σ H} {turns : Nat → Option (Owner × Step)} {owner : Owner}
  {errand : Errand H} {start : Nat}

theorem idle_stays (passes : ∀ n, Passes (engines n) (engines (n + 1)) (turns n))
    (found : errandOf owner (engines start).errands = some errand)
    (unfinished : errand.standing ≠ .finished)
    (idle : ∀ n, start ≤ n → errandOf owner (engines n).errands = some errand →
      ∀ step, turns n ≠ some (owner, step)) :
    ∀ n, start ≤ n → errandOf owner (engines n).errands = some errand := by
  intro n later
  induction n, later using Nat.le_induction with
  | base => exact found
  | succ n later ih =>
    have idle := idle n later ih
    have pass := passes n
    generalize turns n = turn at idle pass
    cases pass with
    | other scene kept => exact kept owner errand ih unfinished
    | step other step move =>
      obtain ⟨old, new, scene, -, -, rfl, after⟩ := step_errand move
      have apart : new.owner ≠ owner := fun same => idle step (same ▸ rfl)
      rw [after]
      exact (errand_of_replace_other apart).trans ih

variable (passes : ∀ n, Passes (engines n) (engines (n + 1)) (turns n))
  (orderly : ∀ n, Orderly (engines n)) (fair : Fair engines turns)

include passes orderly fair

/-- No lookup is under way for ever: the one who makes it would get its turn. -/
theorem lookup_ends (service : String) (start : Nat) :
    ∃ n, start ≤ n ∧ service ∉ (engines n).scene.inFlight := by
  by_contra! flying
  obtain ⟨owner, errand, found, looks⟩ := flying_looked_up (orderly start) (flying start le_rfl)
  have unfinished : errand.standing ≠ .finished := by
    intro finished
    rw [finished] at looks
    cases looks
  have idle : ∀ n, start ≤ n → errandOf owner (engines n).errands = some errand →
      ∀ step, turns n ≠ some (owner, step) := by
    intro n later here step turn
    have pass := passes n
    rw [turn] at pass
    cases pass with
    | step _ _ move =>
      exact looker_frees (orderly n) here looks move (flying (n + 1) (Nat.le_succ_of_le later))
  have stays := idle_stays passes found unfinished idle
  have due : errand.standing.step? = some .answer := by
    cases standing : errand.standing <;> rw [standing] at looks <;> first | rfl | cases looks
  have apart : ∀ service, errand.standing ≠ .waiting service := by
    intro service waits
    rw [waits] at looks
    cases looks
  have can : ∀ n, start ≤ n → CanStep (engines n) owner .answer := fun n later =>
    errand_can_step (orderly n).online (stays n later) due fun service waits =>
      absurd waits (apart service)
  obtain ⟨n, later, turn⟩ := fair owner .answer
    (fun m => ⟨max m start, le_max_left .., can _ (le_max_right ..)⟩) start
  exact idle n later (stays n later) .answer turn

theorem errand_gets_turn (found : errandOf owner (engines start).errands = some errand)
    (unfinished : errand.standing ≠ .finished) :
    ∃ n, start ≤ n ∧ errandOf owner (engines n).errands = some errand ∧
      ∃ step, turns n = some (owner, step) := by
  by_contra! idle
  have stays := idle_stays passes found unfinished idle
  obtain ⟨step, due⟩ : ∃ step, errand.standing.step? = some step := by
    cases standing : errand.standing <;> first | exact ⟨_, rfl⟩ | exact absurd standing unfinished
  have again : ∀ m, ∃ n, m ≤ n ∧ CanStep (engines n) owner step := by
    intro m
    by_cases waits : ∃ service, errand.standing = .waiting service
    · obtain ⟨service, waits⟩ := waits
      obtain ⟨n, later, free⟩ := lookup_ends passes orderly fair service (max m start)
      have here := stays n (le_trans (le_max_right ..) later)
      refine ⟨n, le_trans (le_max_left ..) later, errand_can_step (orderly n).online here due ?_⟩
      intro name waits'
      obtain rfl : service = name := Standing.waiting.inj (waits.symm.trans waits')
      exact free
    · have here := stays (max m start) (le_max_right ..)
      exact ⟨_, le_max_left .., errand_can_step (orderly _).online here due fun service waits' =>
        absurd ⟨service, waits'⟩ waits⟩
  obtain ⟨n, later, turn⟩ := fair owner step again start
  exact idle n later (stays n later) step turn

/-- Every errand comes to its end, by induction on the steps that it can still take. -/
theorem fair_errand_finishes (found : errandOf owner (engines start).errands = some errand) :
    ∃ n last, start ≤ n ∧ errandOf owner (engines n).errands = some last ∧
      last.standing = .finished := by
  induction errand_acc (σ := σ) errand generalizing start with
  | intro errand _ ih =>
    by_cases finished : errand.standing = .finished
    · exact ⟨start, errand, le_rfl, found, finished⟩
    · obtain ⟨n, later, here, step, turn⟩ :=
        errand_gets_turn passes orderly fair found finished
      have pass := passes n
      rw [turn] at pass
      cases pass with
      | step _ _ move =>
        obtain ⟨old, new, scene, here', stepped, rfl, after⟩ := step_errand move
        obtain rfl : errand = old := Option.some.inj (here.symm.trans here')
        have now : errandOf new.owner (engines (n + 1)).errands = some new := by
          rw [after]
          exact errand_of_replace_own here
        obtain ⟨m, last, beyond, ended⟩ := ih new ⟨_, _, step, stepped⟩ now
        exact ⟨m, last, le_trans later (le_trans (Nat.le_succ n) beyond), ended⟩

end Schedules
end CommandGateway.Engine
