import CommandGateway.Engine.Basic
import CommandGateway.Proofs.Course
import Mathlib.Data.List.Nodup

/- Errands among each other. An errand is found by its owner, and what becomes of it leaves the
   errands of all other owners as they are. -/
namespace CommandGateway.Engine

variable {σ H α : Type}

def Scene.past (s : Scene σ H) : List (Happening H) := s.journal.map Prod.snd

theorem past_enter {owner : Owner} {s : Scene σ H} (seen : List (Happening H)) :
    (s.enter owner seen).past = seen.reverse ++ s.past := by
  simp [Scene.past, Scene.enter, Function.comp_def]

/-- Everything that one step can do to a stage. -/
inductive Stepped (owner : Owner) (s : Scene σ H) : Step → Stage H α → Stage H α → Scene σ H → Prop
  | finish (result : α) : Stepped owner s .advance (.ready (.done result)) (.finished result) s
  | log (event : Event) (next : Work H α) :
      Stepped owner s .advance (.ready (.log event next)) (.ready next)
        (s.enter owner [.logged event])
  | offline (service : String) (next : Reply (Option H) → Work H α)
      (none : s.accessor.connector = none) :
      Stepped owner s .advance (.ready (.acquire service next))
        (.ready (next (.returned (.ok .none)))) (s.enter owner [.logged (offlineEvent service)])
  | known (service : String) (next : Reply (Option H) → Work H α) (handle : H)
      (online : s.accessor.connector ≠ .none)
      (kept : handleFor service s.accessor.handles = some handle) :
      Stepped owner s .advance (.ready (.acquire service next))
        (.ready (next (.returned (.ok (some handle))))) s
  | wait (service : String) (next : Reply (Option H) → Work H α)
      (online : s.accessor.connector ≠ none)
      (unknown : handleFor service s.accessor.handles = none) :
      Stepped owner s .advance (.ready (.acquire service next)) (.waiting service next) s
  | speak (handle : H) (text : String) (next : Reply Unit → Work H α) :
      Stepped owner s .advance (.ready (.speak handle text next))
        (.speaking text (s.speak owner handle text).1 next) (s.speak owner handle text).2
  | learn (service : String) (next : Reply (Option H) → Work H α) (handle : H)
      (online : s.accessor.connector ≠ none)
      (kept : handleFor service s.accessor.handles = some handle) :
      Stepped owner s .lookUp (.waiting service next)
        (.ready (next (.returned (.ok (some handle))))) s
  | lookUp (service : String) (next : Reply (Option H) → Work H α) (connector : Connector σ H)
      (online : s.accessor.connector = some connector)
      (unknown : handleFor service s.accessor.handles = none) (free : service ∉ s.inFlight) :
      Stepped owner s .lookUp (.waiting service next)
        (.lookingUp service (s.lookUp owner connector service).1 next)
        (s.lookUp owner connector service).2
  | answer (service : String) (reply : Reply H) (next : Reply (Option H) → Work H α) :
      Stepped owner s .answer (.lookingUp service reply next) (.ready (next (found reply)))
        (s.answer service reply)
  | hear (text : String) (reply : Reply Unit) (next : Reply Unit → Work H α) :
      Stepped owner s .hear (.speaking text reply next) (.ready (next reply)) s

section Stages
variable {owner : Owner} {s s' : Scene σ H} {step : Step} {stage stage' : Stage H α}

theorem advance_stepped {work : Work H α} :
    Stepped owner s .advance (.ready work) (advance owner s work).1 (advance owner s work).2 := by
  cases work with
  | done result => exact Stepped.finish result
  | log event next => exact Stepped.log event next
  | acquire service next =>
    simp only [advance]
    split
    · rename_i none
      exact Stepped.offline service next none
    · rename_i connector online
      split
      · rename_i handle kept
        exact Stepped.known service next handle (by simp [online]) kept
      · rename_i unknown
        exact Stepped.wait service next (by simp [online]) unknown
  | speak handle text next => exact Stepped.speak handle text next

theorem end_wait_stepped {service : String} {next : Reply (Option H) → Work H α}
    (h : endWait? owner s service next = some (stage', s')) :
    Stepped owner s .lookUp (.waiting service next) stage' s' := by
  unfold endWait? at h
  split at h
  · cases h
  · rename_i connector online
    split at h
    · rename_i handle kept
      cases h
      exact Stepped.learn service next handle (by simp [online]) kept
    · rename_i unknown
      split at h
      · cases h
      · rename_i free
        cases h
        exact Stepped.lookUp service next connector online unknown free

theorem stage_stepped (h : stage.step? owner s step = some (stage', s')) :
    Stepped owner s step stage stage' s' := by
  cases step with
  | advance =>
    cases stage with
    | ready work =>
      obtain ⟨rfl, rfl⟩ : (advance owner s work).1 = stage' ∧ (advance owner s work).2 = s' := by
        simpa [Stage.step?, Prod.ext_iff] using h
      exact advance_stepped
    | _ => cases h
  | lookUp =>
    cases stage with
    | waiting service next => exact end_wait_stepped h
    | _ => cases h
  | answer =>
    cases stage with
    | lookingUp service reply next => cases h; exact Stepped.answer service reply next
    | _ => cases h
  | hear =>
    cases stage with
    | speaking text reply next => cases h; exact Stepped.hear text reply next
    | _ => cases h

theorem keep_connector {service : String} (accessor : Accessor σ H) (reply : Reply H) :
    (accessor.keep service reply).connector = accessor.connector := by
  match reply with
  | .returned (.ok handle) => rfl
  | .returned (.error e) => rfl
  | .panicked p => rfl

theorem stepped_connector (stepped : Stepped owner s step stage stage' s') :
    s'.accessor.connector = s.accessor.connector := by
  cases stepped with
  | speak handle text next =>
    cases online : s.accessor.connector <;>
      simp [Scene.speak, Accessor.speak, online, Scene.enter]
  | answer service reply next => exact keep_connector _ _
  | _ => rfl

end Stages

section Owners
variable {owner : Owner} {errand new : Errand H} {errands : List (Errand H)}

theorem errand_of_some (h : errandOf owner errands = some errand) :
    errand ∈ errands ∧ errand.owner = owner := by
  refine ⟨List.mem_of_find?_eq_some h, ?_⟩
  simpa using List.find?_some h

theorem errand_of_eq_none_iff :
    errandOf owner errands = none ↔ owner ∉ errands.map Errand.owner := by
  simp [errandOf]

theorem errand_of_mem (distinct : (errands.map Errand.owner).Nodup) (member : errand ∈ errands) :
    errandOf errand.owner errands = some errand := by
  cases found : errandOf errand.owner errands with
  | none => exact absurd (List.mem_map_of_mem member) (errand_of_eq_none_iff.mp found)
  | some other =>
    obtain ⟨here, same⟩ := errand_of_some found
    rw [List.inj_on_of_nodup_map distinct here member same]

theorem errand_of_append (found : errandOf owner errands = some errand)
    (more : List (Errand H)) : errandOf owner (errands ++ more) = some errand := by
  simp only [errandOf, List.find?_append] at found ⊢
  simp [found]

theorem errand_of_new (new : Errand H) (free : errandOf new.owner errands = none) :
    errandOf new.owner (errands ++ [new]) = some new := by
  simp only [errandOf, List.find?_append] at free ⊢
  simp [free]

theorem errand_of_remove {other : Owner} (apart : other ≠ owner) :
    errandOf owner (removeErrand other errands) = errandOf owner errands := by
  simp only [errandOf, removeErrand, List.find?_filter]
  refine congrArg (errands.find? ·) (funext fun t => ?_)
  by_cases owns : t.owner = owner
  · simp [owns, Ne.symm apart]
  · simp [owns]

theorem errand_of_replace_own (found : errandOf new.owner errands = some errand) :
    errandOf new.owner (replaceErrand new errands) = some new := by
  obtain ⟨here, owns⟩ := errand_of_some found
  induction errands with
  | nil => cases here
  | cons t rest ih =>
    by_cases same : t.owner = new.owner
    · simp [errandOf, replaceErrand, same]
    · have later : errandOf new.owner rest = some errand := by
        simpa [errandOf, same] using found
      have tail := ih later (errand_of_some later).1
      simpa [errandOf, replaceErrand, same] using tail

theorem errand_of_replace_other (apart : new.owner ≠ owner) :
    errandOf owner (replaceErrand new errands) = errandOf owner errands := by
  induction errands with
  | nil => rfl
  | cons t rest ih =>
    simp only [errandOf, replaceErrand, List.map_cons, List.find?_cons] at ih ⊢
    by_cases same : t.owner = new.owner
    · simp [same, apart, ih]
    · simp [same, ih]

theorem replace_owners :
    (replaceErrand new errands).map Errand.owner = errands.map Errand.owner := by
  simp only [replaceErrand, List.map_map]
  apply List.map_congr_left
  intro t _
  simp only [Function.comp]
  split
  · rename_i same
    exact same.symm
  · rfl

theorem mem_replace_iff (present : new.owner ∈ errands.map Errand.owner) :
    errand ∈ replaceErrand new errands ↔
      errand = new ∨ (errand ∈ errands ∧ errand.owner ≠ new.owner) := by
  constructor
  · intro member
    obtain ⟨t, here, rfl⟩ := List.mem_map.mp member
    split
    · exact Or.inl rfl
    · rename_i other
      exact Or.inr ⟨here, other⟩
  · rintro (rfl | ⟨here, other⟩)
    · obtain ⟨t, here, same⟩ := List.mem_map.mp present
      exact List.mem_map.mpr ⟨t, here, if_pos same⟩
    · exact List.mem_map.mpr ⟨errand, here, if_neg other⟩

theorem remove_owners :
    (removeErrand owner errands).map Errand.owner =
      (errands.map Errand.owner).filter (· ≠ owner) := by
  simp only [removeErrand, List.filter_map]
  rfl

theorem mem_remove_iff :
    errand ∈ removeErrand owner errands ↔ errand ∈ errands ∧ errand.owner ≠ owner := by
  simp [removeErrand]

theorem add_owners_nodup (distinct : (errands.map Errand.owner).Nodup)
    (free : errandOf new.owner errands = none) :
    ((errands ++ [new]).map Errand.owner).Nodup := by
  rw [List.map_append, List.nodup_append]
  refine ⟨distinct, List.nodup_singleton _, ?_⟩
  intro a member b single same
  rw [List.map_singleton, List.mem_singleton] at single
  exact errand_of_eq_none_iff.mp free (single ▸ same ▸ member)

theorem report_finished {result : Ended Report} (report : errand.report? = some result) :
    errand.standing = .finished := by
  match errand with
  | .batch _ (.finished _) => rfl
  | .batch _ (.ready _) | .batch _ (.waiting _ _) | .batch _ (.lookingUp _ _ _)
  | .batch _ (.speaking _ _ _) => cases report
  | .payload _ _ | .handle _ _ => cases report

inductive ErrandStepped (s : Scene σ H) (step : Step) (s' : Scene σ H) :
    Errand H → Errand H → Prop
  | batch (id : Uuid) (stage stage' : Stage H (Ended Report))
      (moved : Stepped (.job id) s step stage stage' s') :
      ErrandStepped s step s' (.batch id stage) (.batch id stage')
  | payload (request : Nat) (stage stage' : Stage H (Ended DispatchOutcome))
      (moved : Stepped (.request request) s step stage stage' s') :
      ErrandStepped s step s' (.payload request stage) (.payload request stage')
  | handle (caller : Nat) (stage stage' : Stage H (Reply (Option H)))
      (moved : Stepped (.caller caller) s step stage stage' s') :
      ErrandStepped s step s' (.handle caller stage) (.handle caller stage')

theorem errand_stepped {s s' : Scene σ H} {step : Step}
    (h : errand.step? s step = some (new, s')) : ErrandStepped s step s' errand new := by
  cases errand <;>
  · simp only [Errand.step?, Option.map_eq_some_iff] at h
    obtain ⟨⟨stage, scene⟩, moved, same⟩ := h
    cases same
    constructor
    exact stage_stepped moved

theorem errand_step_owner {s s' : Scene σ H} {step : Step}
    (h : errand.step? s step = some (new, s')) : new.owner = errand.owner := by
  cases errand_stepped h <;> rfl

end Owners

section Logs
variable {β : Type} {owner other : Owner} {log : List (Owner × β)}

def doneBy (owner : Owner) (log : List (Owner × β)) : List β :=
  log.filterMap fun d => if d.1 = owner then some d.2 else none

theorem done_by_append (more : List (Owner × β)) :
    doneBy owner (log ++ more) = doneBy owner log ++ doneBy owner more :=
  List.filterMap_append

theorem done_by_own (deeds : List β) : doneBy owner (deeds.map (owner, ·)) = deeds := by
  simp [doneBy, List.filterMap_map]

theorem done_by_other (apart : other ≠ owner) (deeds : List β) :
    doneBy owner (deeds.map (other, ·)) = [] := by
  simp [doneBy, List.filterMap_map, apart]

end Logs
end CommandGateway.Engine
