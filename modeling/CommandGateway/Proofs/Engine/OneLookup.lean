import CommandGateway.Proofs.Engine.Cells

/- One lookup serves all. However the steps of those who ask for handles interleave, a service is
   looked up by one of them at a time until it is found, and never again after that. -/
namespace CommandGateway.Engine

open Pool

variable {σ H : Type}

def getsOf (e : Engine σ H) : Move → GetLog H
  | .step owner step =>
    match errandOf owner e.errands with
    | some errand => (errand.gets e.scene step).map (owner, ·)
    | none => []
  | .giveUp n =>
    match errandOf (.caller n) e.errands with
    | some errand => (quitDeeds errand.standing).map (.caller n, ·)
    | none => []
  | _ => []

def getLog (e : Engine σ H) : List Move → GetLog H
  | [] => []
  | m :: rest =>
    match e.move? m with
    | some e' => getsOf e m ++ getLog e' rest
    | none => []

section Moves
variable {e e' : Engine σ H} {m : Move} {moves : List Move} {log : GetLog H} {owner : Owner}
  {errand new : Errand H}

theorem log_snoc {mid : Engine σ H} (run : e.run? moves = some mid)
    (move : mid.move? m = some e') : getLog e (moves ++ [m]) = getLog e moves ++ getsOf mid m := by
  induction moves generalizing e with
  | nil =>
    cases run
    simp [getLog, move]
  | cons first rest ih =>
    simp only [run?] at run
    split at run
    · rename_i next possible
      simp only [List.cons_append, getLog, possible, ih run, List.append_assoc]
    · cases run

theorem only_errand (owners : (e.errands.map Errand.owner).Nodup)
    (found : errandOf owner e.errands = some errand) :
    ∀ other ∈ e.errands, other.owner = owner → other = errand := by
  intro other here same
  have again := errand_of_mem owners here
  rw [same, found] at again
  exact (Option.some.inj again).symm

theorem step_replaced (owners : (e.errands.map Errand.owner).Nodup)
    (found : errandOf owner e.errands = some errand) (same : new.owner = errand.owner) :
    Replaced owner errand (some new) e.errands (replaceErrand new e.errands) := by
  obtain ⟨here, owns⟩ := errand_of_some found
  have only := only_errand owners found
  refine ⟨here, owns, only, ?_, ?_⟩
  · intro other
    rw [mem_replace_iff (same ▸ List.mem_map_of_mem here), same, owns, Option.some.injEq,
      eq_comm]
    refine or_congr Iff.rfl (and_congr_right fun member => not_congr ⟨only other member, ?_⟩)
    rintro rfl
    exact owns
  · rintro other ⟨⟩
    exact same.trans owns

theorem quit_replaced (owners : (e.errands.map Errand.owner).Nodup)
    (found : errandOf owner e.errands = some errand) :
    Replaced owner errand none e.errands (removeErrand owner e.errands) := by
  obtain ⟨here, owns⟩ := errand_of_some found
  have only := only_errand owners found
  refine ⟨here, owns, only, ?_, by simp⟩
  intro other
  rw [mem_remove_iff]
  simp only [reduceCtorEq, false_or]
  refine and_congr_right fun member => not_congr ⟨only other member, ?_⟩
  rintro rfl
  exact owns

theorem engaged_same (moved : Moved e m e') (owners : (e.errands.map Errand.owner).Nodup)
    (apart : ∀ owner step, m ≠ .step owner step) (stay : ∀ n, m ≠ .giveUp n) :
    e'.scene = e.scene ∧ ∀ errand : Errand H, errand.standing.service? ≠ none →
      (errand ∈ e'.errands ↔ errand ∈ e.errands) := by
  have added : ∀ {new errand : Errand H}, new.standing = .ready →
      errand.standing.service? ≠ none → (errand ∈ e.errands ++ [new] ↔ errand ∈ e.errands) := by
    intro new errand ready engaged
    simp only [List.mem_append, List.mem_singleton, or_iff_left_iff_imp]
    rintro rfl
    exact absurd (by rw [ready]; rfl) engaged
  cases moved with
  | begin w job pool taken acted => exact ⟨rfl, fun errand => added rfl⟩
  | collect w result job pool running ended acted =>
    refine ⟨rfl, ?_⟩
    intro errand engaged
    obtain ⟨done, found, report⟩ := Option.bind_eq_some_iff.mp ended
    rw [mem_remove_iff]
    refine and_iff_left_of_imp fun here same => engaged ?_
    rw [only_errand owners found errand here same, report_finished report]
    rfl
  | other action pool plain acted => exact ⟨rfl, fun errand _ => Iff.rfl⟩
  | request n body free => exact ⟨rfl, fun errand => added rfl⟩
  | call n service free => exact ⟨rfl, fun errand => added rfl⟩
  | giveUp n errand found => exact absurd rfl (stay n)
  | step owner step errand new scene found stepped => exact absurd rfl (apart owner step)

theorem move_cells (moved : Moved e m e') (owners : (e.errands.map Errand.owner).Nodup)
    (cells : Cells e.scene e.errands log) :
    Cells e'.scene e'.errands (log ++ getsOf e m) := by
  cases m with
  | giveUp n =>
    cases moved with
    | giveUp n errand found =>
      simp only [getsOf, found]
      exact quit_cells (quit_replaced owners found) cells
  | step owner step =>
    cases moved with
    | step owner step errand new scene found stepped =>
      simp only [getsOf, found]
      have same := errand_step_owner stepped
      exact getting_cells (step_replaced owners found same) (errand_getting stepped) cells
  | pool action | request n body | call n service =>
    obtain ⟨scene, engaged⟩ := engaged_same moved owners (by simp) (by simp)
    simp only [getsOf, List.append_nil, scene]
    exact cells_others engaged cells

end Moves

section Callers
variable {log : GetLog H} {n : Nat}

def HasGot (log : GetLog H) (n : Nat) (reply : Reply (Option H)) : Prop :=
  ∃ earlier service, deedsOf (.caller n) log = earlier ++ [.got service reply]

/-- A caller does nothing but get one handle. -/
def Awaits (log : GetLog H) (n : Nat) : Stage H (Reply (Option H)) → Prop
  | .ready (.acquire _ next) => next = .done
  | .ready (.done reply) => HasGot log n reply
  | .waiting _ next => next = .done
  | .lookingUp _ _ next => next = .done
  | .finished reply => HasGot log n reply
  | _ => False

theorem awaits_congr {log' : GetLog H} (same : deedsOf (.caller n) log' = deedsOf (.caller n) log)
    {stage : Stage H (Reply (Option H))} (awaits : Awaits log n stage) : Awaits log' n stage := by
  have got : ∀ reply, HasGot log n reply → HasGot log' n reply := by
    intro reply has
    rwa [HasGot, same]
  match stage with
  | .ready (.acquire _ _) => exact awaits
  | .ready (.done reply) => exact got reply awaits
  | .waiting _ _ => exact awaits
  | .lookingUp _ _ _ => exact awaits
  | .finished reply => exact got reply awaits
  | .ready (.log _ _) | .ready (.speak _ _ _) | .speaking _ _ _ => exact awaits

theorem stepped_awaits {s s' : Scene σ H} {step : Step} {stage stage' : Stage H (Reply (Option H))}
    (stepped : Stepped (.caller n) s step stage stage' s') (awaits : Awaits log n stage) :
    Awaits (log ++ (stage.gets s step).map (.caller n, ·)) n stage' := by
  have gets : ∀ (deeds : List (GetDeed H)) {reply : Reply (Option H)} {service : String},
      HasGot (log ++ (deeds ++ [GetDeed.got service reply]).map (Owner.caller n, ·)) n reply := by
    intro deeds reply service
    exact ⟨deedsOf (.caller n) log ++ deeds, service, by
      rw [deeds_append, deeds_own, List.append_assoc]⟩
  cases stepped with
  | finish result => simpa [Stage.gets, Awaits] using awaits
  | log event next => exact awaits.elim
  | offline service next none =>
    obtain rfl : next = .done := awaits
    simp only [Stage.gets, none]
    exact gets [.asked service]
  | known service next handle online kept =>
    obtain rfl : next = .done := awaits
    obtain ⟨connector, online⟩ := Option.ne_none_iff_exists'.mp online
    simp only [Stage.gets, online, kept]
    exact gets [.asked service]
  | wait service next online unknown => exact awaits
  | speak handle text next => exact awaits.elim
  | learn service next handle online kept =>
    obtain rfl : next = .done := awaits
    simp only [Stage.gets, kept]
    exact gets []
  | lookUp service next connector online unknown free => exact awaits
  | answer service reply next =>
    obtain rfl : next = .done := awaits
    exact gets [.answered service reply]
  | hear text reply next => exact awaits.elim

end Callers

section Runs
variable {e e' : Engine σ H} {m : Move} {moves : List Move} {log : GetLog H}

theorem handle_step {s s' : Scene σ H} {step : Step} {errand : Errand H} {n : Nat}
    {stage : Stage H (Reply (Option H))}
    (stepped : errand.step? s step = some (.handle n stage, s')) :
    ∃ earlier, errand = .handle n earlier ∧ Stepped (.caller n) s step earlier stage s' := by
  cases errand_stepped stepped with
  | handle _ earlier _ moved => exact ⟨earlier, rfl, moved⟩

def AllAwait (errands : List (Errand H)) (log : GetLog H) : Prop :=
  ∀ n stage, Errand.handle n stage ∈ errands → Awaits log n stage

theorem move_awaits (moved : Moved e m e') (owners : (e.errands.map Errand.owner).Nodup)
    (waits : AllAwait e.errands log) : AllAwait e'.errands (log ++ getsOf e m) := by
  intro n stage member
  cases moved with
  | begin w job pool taken acted =>
    simp only [getsOf, List.append_nil]
    exact waits n stage (by simpa using member)
  | collect w result job pool running ended acted =>
    simp only [getsOf, List.append_nil]
    exact waits n stage (mem_remove_iff.mp member).1
  | other action pool plain acted =>
    simp only [getsOf, List.append_nil]
    exact waits n stage member
  | request k body free =>
    simp only [getsOf, List.append_nil]
    exact waits n stage (by simpa using member)
  | call k service free =>
    simp only [getsOf, List.append_nil]
    rcases List.mem_append.mp member with old | new
    · exact waits n stage old
    · cases List.mem_singleton.mp new
      rfl
  | giveUp k errand found =>
    obtain ⟨here, other⟩ := mem_remove_iff.mp member
    simp only [getsOf, found]
    have apart : Owner.caller k ≠ .caller n := Ne.symm other
    refine awaits_congr ?_ (waits n stage here)
    rw [deeds_append, deeds_other apart, List.append_nil]
  | step owner step errand new scene found stepped =>
    simp only [getsOf, found]
    have replaced := step_replaced owners found (errand_step_owner stepped)
    rcases (replaced.members _).mp member with now | ⟨here, other⟩
    · obtain rfl := Option.some.inj now
      obtain ⟨earlier, rfl, moved⟩ := handle_step stepped
      obtain rfl : Owner.caller n = owner := replaced.owns
      exact stepped_awaits moved (waits n earlier replaced.present)
    · refine awaits_congr ?_ (waits n stage here)
      have apart : owner ≠ .caller n := fun same => other (replaced.only _ here same.symm)
      rw [deeds_append, deeds_other apart, List.append_nil]

variable {registry : Registry H} {connector : Connector σ H} {robot : σ}
  {workers capacity retained : Nat}

theorem opening_cells (errands : List (Errand H)) (none : errands = []) :
    Cells (.fresh (.online connector robot)) errands [] := by
  subst none
  refine ⟨by simp [Scene.fresh, Accessor.online], ⟨List.nodup_nil, ?_, ?_⟩, ?_, ?_, ?_, ?_⟩
  · simp [Scene.fresh]
  · simp
  · simp [Scene.fresh]
  · simp [successes, Scene.fresh, Accessor.online, handleFor]
  · simp
  · intro before d after split
    simp at split

theorem run_cells
    (run : (opening registry (.online connector robot) workers capacity retained).run? moves =
      some e) (fresh : (issued (poolActions moves)).Nodup) :
    Cells e.scene e.errands
        (getLog (opening registry (.online connector robot) workers capacity retained) moves) ∧
      AllAwait e.errands
        (getLog (opening registry (.online connector robot) workers capacity retained) moves) := by
  let first := opening registry (.online connector robot) workers capacity retained
  refine fresh_moves_keep (fun moves e => Cells e.scene e.errands (getLog first moves) ∧
    AllAwait e.errands (getLog first moves)) ?_ run fresh ⟨opening_cells _ rfl, ?_⟩
  · rintro moves mid m e before move - ids ⟨cells, waits⟩
    have owners := (run_dispatches before (entered_chronicle (run_pool before) ▸ ids)).owners
    have moved := move_moved move
    rw [log_snoc before move]
    exact ⟨move_cells moved owners cells, move_awaits moved owners waits⟩
  · intro n stage member
    simp [opening] at member

end Runs
end CommandGateway.Engine
