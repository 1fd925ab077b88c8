import CommandGateway.Proofs.Engine.Schedule

/- Whose turn it is. A thread has one place in the order of turns, however often it is woken; and
   what an errand does in its turn leaves all others where they stand. -/
namespace CommandGateway.Engine

open Pool

variable {σ H : Type}

section Order
variable {t u : Thread} {threads l : List Thread}

structure Queued (l : List Thread) : Prop where
  once : l.Nodup
  sorted : l.Pairwise fun a b => b.precedes a = false

theorem precedes_trans {a b c : Thread} (first : a.precedes b = true)
    (second : b.precedes c = true) : a.precedes c = true := by
  rcases a with _ | (_ | _ | m) <;> rcases b with _ | (_ | _ | n) <;>
    rcases c with _ | (_ | _ | k) <;> simp_all [Thread.precedes]
  omega

theorem precedes_asymm {a b : Thread} (first : a.precedes b = true) : b.precedes a = false := by
  rcases a with _ | (_ | _ | m) <;> rcases b with _ | (_ | _ | n) <;>
    simp_all [Thread.precedes]
  omega

theorem enqueue_mem (sorted : l.Pairwise fun a b => b.precedes a = false) (member : t ∈ l) :
    enqueue t l = l := by
  induction l with
  | nil => cases member
  | cons u rest ih =>
    obtain ⟨first, sorted⟩ := List.pairwise_cons.mp sorted
    by_cases same : u = t
    · simp [enqueue, same]
    · have behind : t ∈ rest := by simpa [Ne.symm same] using member
      simp [enqueue, same, first t behind, ih sorted behind]

theorem enqueue_perm (new : t ∉ l) : (enqueue t l).Perm (t :: l) := by
  induction l with
  | nil => exact List.Perm.refl _
  | cons u rest ih =>
    obtain ⟨other, new⟩ := not_or.mp (List.mem_cons.not.mp new)
    rw [enqueue, if_neg (Ne.symm other)]
    split
    · exact List.Perm.refl _
    · exact ((ih new).cons u).trans (List.Perm.swap ..)

theorem enqueue_sorted (sorted : l.Pairwise fun a b => b.precedes a = false) :
    (enqueue t l).Pairwise fun a b => b.precedes a = false := by
  induction l with
  | nil => exact List.pairwise_singleton _ _
  | cons u rest ih =>
    obtain ⟨first, later⟩ := List.pairwise_cons.mp sorted
    rw [enqueue]
    split
    · exact sorted
    · split
      · rename_i before
        refine List.pairwise_cons.mpr ⟨fun b member => ?_, sorted⟩
        rcases List.mem_cons.mp member with rfl | behind
        · exact precedes_asymm before
        · by_contra earlier
          have earlier := precedes_trans ((Bool.not_eq_false _).mp earlier) before
          simp [first b behind] at earlier
      · rename_i apart notBefore
        refine List.pairwise_cons.mpr ⟨fun b member => ?_, ih later⟩
        by_cases here : t ∈ rest
        · exact first b (enqueue_mem later here ▸ member)
        · rcases List.mem_cons.mp ((enqueue_perm here).mem_iff.mp member) with rfl | behind
          · simpa using notBefore
          · exact first b behind

theorem enqueue_mem_iff (sorted : l.Pairwise fun a b => b.precedes a = false) :
    u ∈ enqueue t l ↔ u = t ∨ u ∈ l := by
  by_cases here : t ∈ l
  · rw [enqueue_mem sorted here]
    exact ⟨Or.inr, fun known => known.elim (fun same => same ▸ here) id⟩
  · rw [(enqueue_perm here).mem_iff, List.mem_cons]

theorem enqueue_queued (queued : Queued l) : Queued (enqueue t l) := by
  refine ⟨?_, enqueue_sorted queued.sorted⟩
  by_cases here : t ∈ l
  · rw [enqueue_mem queued.sorted here]
    exact queued.once
  · exact (enqueue_perm here).nodup_iff.mpr (List.nodup_cons.mpr ⟨here, queued.once⟩)

theorem enqueue_all_queued (threads : List Thread) (queued : Queued l) :
    Queued (threads.foldl (fun ready t => enqueue t ready) l) ∧
      ∀ u, u ∈ threads.foldl (fun ready t => enqueue t ready) l ↔ u ∈ l ∨ u ∈ threads := by
  induction threads generalizing l with
  | nil => exact ⟨queued, by simp⟩
  | cons t rest ih =>
    obtain ⟨later, members⟩ := ih (enqueue_queued (t := t) queued)
    refine ⟨later, fun u => ?_⟩
    rw [List.foldl_cons, members, enqueue_mem_iff queued.sorted, List.mem_cons]
    tauto

/-- An order of turns in which the first keeps its place whoever comes after it. -/
structure Lasting (ready : List Thread) : Prop where
  once : ready.Nodup
  rest : Queued ready.tail

theorem woken_lasting (threads : List Thread) (lasting : Lasting l) :
    Lasting (woken threads l) ∧ ∀ u, u ∈ woken threads l ↔ u ∈ l ∨ u ∈ threads := by
  cases l with
  | nil =>
    obtain ⟨queued, members⟩ := enqueue_all_queued threads lasting.rest
    exact ⟨⟨queued.once, queued.once.tail, queued.sorted.tail⟩, members⟩
  | cons t rest =>
    obtain ⟨out, -⟩ := List.nodup_cons.mp lasting.once
    obtain ⟨queued, members⟩ := enqueue_all_queued (threads.filter (· ≠ t)) lasting.rest
    refine ⟨⟨List.nodup_cons.mpr ⟨fun again => ?_, queued.once⟩, queued⟩, fun u => ?_⟩
    · simpa [out] using (members t).mp again
    · have later := members u
      simp only [List.tail_cons, List.mem_filter, decide_eq_true_eq] at later
      rw [woken, List.mem_cons, later, List.mem_cons]
      by_cases same : u = t <;> simp [same]

theorem tail_lasting (lasting : Lasting l) : Lasting l.tail :=
  ⟨lasting.once.tail, lasting.rest.once.tail, lasting.rest.sorted.tail⟩

end Order

section Standings
variable {e e' : Engine σ H} {owner : Owner} {errand new : Errand H} {s s' : Scene σ H}

theorem standing_of_some {standing : Standing} (stands : standingOf e owner = some standing) :
    ∃ errand, errandOf owner e.errands = some errand ∧ errand.standing = standing :=
  Option.map_eq_some_iff.mp stands

theorem standing_of_found {standing : Standing} (found : errandOf owner e.errands = some errand)
    (stands : errand.standing = standing) : standingOf e owner = some standing := by
  rw [standingOf, found, Option.map_some, stands]

theorem advance_standing (stepped : errand.step? s .advance = some (new, s')) :
    errand.standing = .ready ∧ new.standing.looksUp? = none ∧ s.Same s' := by
  cases errand_stepped stepped with
  | batch _ _ _ moved | payload _ _ _ moved | handle _ _ _ moved =>
    cases moved with
    | finish | known | wait => exact ⟨rfl, rfl, rfl, rfl, rfl⟩
    | log | offline => exact ⟨rfl, rfl, scene_same_enter _⟩
    | speak => exact ⟨rfl, rfl, scene_same_speak _ _⟩

theorem hear_standing (stepped : errand.step? s .hear = some (new, s')) :
    (∃ text, errand.standing = .speaking text) ∧ new.standing = .ready ∧ s' = s := by
  cases errand_stepped stepped with
  | batch _ _ _ moved | payload _ _ _ moved | handle _ _ _ moved =>
    cases moved with
    | hear text => exact ⟨⟨text, rfl⟩, rfl, rfl⟩

theorem look_up_standing (stepped : errand.step? s .lookUp = some (new, s')) :
    ∃ service, errand.standing = .waiting service ∧
      s'.accessor.handles = s.accessor.handles ∧
      (handleFor service s.accessor.handles ≠ none ∧ new.standing = .ready ∨
        handleFor service s.accessor.handles = none ∧
          ∃ succeeds, new.standing = .lookingUp service succeeds) := by
  cases errand_stepped stepped with
  | batch _ _ _ moved | payload _ _ _ moved | handle _ _ _ moved =>
    cases moved with
    | learn service next handle online kept => exact ⟨service, rfl, rfl, .inl ⟨by simp [kept], rfl⟩⟩
    | lookUp service next connector online unknown free =>
      refine ⟨service, rfl, ?_, .inr ⟨unknown, _, rfl⟩⟩
      simp [Scene.lookUp, Accessor.lookUp, Scene.enter]

theorem answer_standing (stepped : errand.step? s .answer = some (new, s')) :
    ∃ service succeeds, errand.standing = .lookingUp service succeeds ∧ new.standing = .ready ∧
      ∀ name, name ≠ service ∨ succeeds = false →
        handleFor name s'.accessor.handles = handleFor name s.accessor.handles := by
  cases errand_stepped stepped with
  | batch _ _ _ moved | payload _ _ _ moved | handle _ _ _ moved =>
    cases moved with
    | answer service reply next =>
      refine ⟨service, _, rfl, rfl, fun name kept => ?_⟩
      rcases kept with other | vain
      · exact handle_for_answer reply other
      · match reply with
        | .returned (.ok handle) => cases vain
        | .returned (.error e) | .panicked p => rfl

end Standings

/-- What a step of one owner's errand is to the others. -/
structure StepsOn (e : Engine σ H) (owner : Owner) (old new : Errand H) (step : Step)
    (e' : Engine σ H) : Prop where
  stepped : old.step? e.scene step = some (new, e'.scene)
  own : standingOf e' owner = some new.standing
  others : ∀ p, p ≠ owner → standingOf e' p = standingOf e p
  pool : e'.pool = e.pool

section Steps
variable {e : Engine σ H} {r : Rota σ H} {owner : Owner}

theorem step_steps {e e' : Engine σ H} {step : Step} (move : e.step? owner step = some e') :
    ∃ old new, errandOf owner e.errands = some old ∧ StepsOn e owner old new step e' := by
  obtain ⟨old, new, scene, found, stepped, owns, rfl⟩ := step_errand move
  refine ⟨old, new, found, stepped, ?_, fun p other => ?_, rfl⟩
  · have kept : errandOf owner (replaceErrand new e.errands) = some new :=
      owns ▸ errand_of_replace_own (owns ▸ found)
    simp only [standingOf, kept, Option.map_some]
  · have kept : errandOf p (replaceErrand new e.errands) = errandOf p e.errands :=
      errand_of_replace_other (owns ▸ Ne.symm other)
    simp only [standingOf, kept]

theorem play_steps {standing : Standing} {step : Step} (online : Online r.engine)
    (stands : standingOf r.engine owner = some standing) (due : standing.step? = some step)
    (free : ∀ service, standing = .waiting service → service ∉ r.engine.scene.inFlight) :
    ∃ old new e, old.standing = standing ∧ StepsOn r.engine owner old new step e ∧
      r.play (.step owner step) = { r with engine := e } := by
  obtain ⟨old, found, rfl⟩ := standing_of_some stands
  obtain ⟨e, move⟩ := errand_can_step online found due free
  obtain ⟨same, new, found', steps⟩ := step_steps move
  obtain rfl : old = same := Option.some.inj (found.symm.trans found')
  exact ⟨old, new, e, rfl, steps, play_with (m := .step owner step) move⟩

end Steps

end CommandGateway.Engine
