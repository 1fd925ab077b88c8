import CommandGateway.Proofs.Engine.Errands
import CommandGateway.Proofs.Engine.Moves

/- Errands deed by deed. A step of an errand does the first of the deeds that are ahead of it, and a
   log tells for a whole run which errand did what. -/
namespace CommandGateway.Engine

variable {σ H α : Type}

def Stage.Ahead : Stage H α → List (Deed H) → α → Prop
  | .ready work => Course work
  | .waiting service next => fun deeds a =>
    ∃ reply rest, deeds = .acquired service reply :: rest ∧ Course (next reply) rest a
  | .lookingUp service reply next => fun deeds a =>
    ∃ rest, deeds = .acquired service (found reply) :: rest ∧ Course (next (found reply)) rest a
  | .speaking _ reply next => Course (next reply)
  | .finished result => fun deeds a => deeds = [] ∧ a = result

def Stage.canEnd (stage : Stage H α) (a : α) : Prop := ∃ deeds, stage.Ahead deeds a

/-- What a step does. Asking for a service is no deed until the answer has come. -/
def Stage.deeds (s : Scene σ H) : Step → Stage H α → List (Deed H)
  | .advance, .ready (.log event _) => [.logged event]
  | .advance, .ready (.acquire service _) =>
    match s.accessor.connector with
    | none => [.acquired service (.returned (.ok none))]
    | some _ =>
      match handleFor service s.accessor.handles with
      | some handle => [.acquired service (.returned (.ok (some handle)))]
      | none => []
  | .advance, .ready (.speak handle text _) =>
    [.spoke handle text (s.accessor.speak handle text).1]
  | .lookUp, .waiting service _ =>
    match handleFor service s.accessor.handles with
    | some handle => [.acquired service (.returned (.ok (some handle)))]
    | none => []
  | .answer, .lookingUp service reply _ => [.acquired service (found reply)]
  | _, _ => []

def Errand.deeds (s : Scene σ H) (step : Step) : Errand H → List (Deed H)
  | .batch _ stage => stage.deeds s step
  | .payload _ stage => stage.deeds s step
  | .handle _ stage => stage.deeds s step

abbrev DeedLog (H : Type) := List (Owner × Deed H)

def deedsIn (e : Engine σ H) : Move → DeedLog H
  | .step owner step =>
    match errandOf owner e.errands with
    | some errand => (errand.deeds e.scene step).map (owner, ·)
    | none => []
  | _ => []

def deedLog (e : Engine σ H) : List Move → DeedLog H
  | [] => []
  | m :: rest =>
    match e.move? m with
    | some e' => deedsIn e m ++ deedLog e' rest
    | none => []

section Stages
variable {owner : Owner} {s s' : Scene σ H} {step : Step} {stage stage' : Stage H α}
  {rest : List (Deed H)} {a : α}

theorem stepped_ahead (stepped : Stepped owner s step stage stage' s')
    (ahead : stage'.Ahead rest a) : stage.Ahead (stage.deeds s step ++ rest) a := by
  cases stepped with
  | finish result =>
    obtain ⟨rfl, rfl⟩ := ahead
    exact Course.done _
  | log event next => exact Course.log event ahead
  | offline service next none =>
    simp only [Stage.deeds, none]
    exact Course.acquire service _ ahead
  | known service next handle online kept =>
    obtain ⟨connector, online⟩ := Option.ne_none_iff_exists'.mp online
    simp only [Stage.deeds, online, kept]
    exact Course.acquire service _ ahead
  | wait service next online unknown =>
    obtain ⟨connector, online⟩ := Option.ne_none_iff_exists'.mp online
    obtain ⟨reply, rest, rfl, course⟩ := ahead
    simp only [Stage.deeds, online, unknown]
    exact Course.acquire service reply course
  | speak handle text next => exact Course.speak handle text _ ahead
  | learn service next handle online kept =>
    simp only [Stage.deeds, kept]
    exact ⟨_, _, rfl, ahead⟩
  | lookUp service next connector online unknown free =>
    obtain ⟨rest, rfl, course⟩ := ahead
    simp only [Stage.deeds, unknown]
    exact ⟨_, _, rfl, course⟩
  | answer service reply next => exact ⟨_, rfl, ahead⟩
  | hear text reply next => exact ahead

/-- Whatever has been done, an end is ahead. -/
theorem end_ahead (accessor : Accessor σ H) (stage : Stage H α) :
    ∃ rest a, stage.Ahead rest a := by
  cases stage with
  | ready work => exact has_course accessor work
  | waiting service next =>
    obtain ⟨rest, a, course⟩ := has_course accessor (next (.returned (.ok none)))
    exact ⟨_, a, _, rest, rfl, course⟩
  | lookingUp service reply next =>
    obtain ⟨rest, a, course⟩ := has_course accessor (next (found reply))
    exact ⟨_, a, rest, rfl, course⟩
  | speaking text reply next => exact has_course accessor (next reply)
  | finished result => exact ⟨[], result, rfl, rfl⟩

end Stages

theorem deed_log_snoc {e mid e' : Engine σ H} {m : Move} {moves : List Move}
    (run : e.run? moves = some mid) (move : mid.move? m = some e') :
    deedLog e (moves ++ [m]) = deedLog e moves ++ deedsIn mid m := by
  induction moves generalizing e with
  | nil =>
    cases run
    simp [deedLog, move]
  | cons first rest ih =>
    simp only [run?] at run
    split at run
    · rename_i next possible
      simp only [List.cons_append, deedLog, possible, ih run, List.append_assoc]
    · cases run

end CommandGateway.Engine
