import CommandGateway.Proofs.Engine.Errands

/- Calls for a handle, step by step. Whoever asks for the handle of a service gets it at once, or
   has to wait, learns it from somebody else or looks the service up, and is answered or cancelled.
   What one step of an errand does to the services is said here once. -/
namespace CommandGateway.Engine

variable {σ H α : Type}

inductive GetDeed (H : Type) where
  | asked (service : String)
  | started (service : String)
  | answered (service : String) (reply : Reply H)
  | cancelled (service : String)
  | got (service : String) (reply : Reply (Option H))

def GetDeed.service : GetDeed H → String
  | .asked service => service
  | .started service => service
  | .answered service _ => service
  | .cancelled service => service
  | .got service _ => service

abbrev GetLog (H : Type) := List (Owner × GetDeed H)

def Stage.gets (s : Scene σ H) : Step → Stage H α → List (GetDeed H)
  | .advance, .ready (.acquire service _) =>
    match s.accessor.connector with
    | none => [.asked service, .got service (.returned (.ok none))]
    | some _ =>
      match handleFor service s.accessor.handles with
      | some handle => [.asked service, .got service (.returned (.ok (some handle)))]
      | none => [.asked service]
  | .lookUp, .waiting service _ =>
    match handleFor service s.accessor.handles with
    | some handle => [.got service (.returned (.ok (some handle)))]
    | none => [.started service]
  | .answer, .lookingUp service reply _ => [.answered service reply, .got service (found reply)]
  | _, _ => []

def Errand.gets (s : Scene σ H) (step : Step) : Errand H → List (GetDeed H)
  | .batch _ stage => stage.gets s step
  | .payload _ stage => stage.gets s step
  | .handle _ stage => stage.gets s step

def Standing.service? : Standing → Option String
  | .waiting service => some service
  | .lookingUp service _ => some service
  | _ => none

def Standing.looksUp? : Standing → Option String
  | .lookingUp service _ => some service
  | _ => none

/-- The services as they are known: who is being looked up, and what was found. -/
structure Scene.Same (s s' : Scene σ H) : Prop where
  connector : s'.accessor.connector = s.accessor.connector
  handles : s'.accessor.handles = s.accessor.handles
  inFlight : s'.inFlight = s.inFlight

inductive Getting (s : Scene σ H) : Standing → List (GetDeed H) → Standing → Scene σ H → Prop
  | apart {before after : Standing} {s' : Scene σ H} (idle : before.service? = none)
      (idle' : after.service? = none) (same : s.Same s') : Getting s before [] after s'
  | offline (service : String) {s' : Scene σ H} (none : s.accessor.connector = none)
      (same : s.Same s') :
      Getting s .ready [.asked service, .got service (.returned (.ok .none))] .ready s'
  | known (service : String) (handle : H)
      (kept : handleFor service s.accessor.handles = some handle) :
      Getting s .ready [.asked service, .got service (.returned (.ok (some handle)))] .ready s
  | wait (service : String) (unknown : handleFor service s.accessor.handles = none) :
      Getting s .ready [.asked service] (.waiting service) s
  | learn (service : String) (handle : H)
      (kept : handleFor service s.accessor.handles = some handle) :
      Getting s (.waiting service) [.got service (.returned (.ok (some handle)))] .ready s
  | start (service : String) (succeeds : Bool) {s' : Scene σ H}
      (unknown : handleFor service s.accessor.handles = none) (free : service ∉ s.inFlight)
      (connector : s'.accessor.connector = s.accessor.connector)
      (handles : s'.accessor.handles = s.accessor.handles)
      (inFlight : s'.inFlight = service :: s.inFlight) :
      Getting s (.waiting service) [.started service] (.lookingUp service succeeds) s'
  | answer (service : String) (reply : Reply H) (succeeds : Bool) :
      Getting s (.lookingUp service succeeds)
        [.answered service reply, .got service (found reply)] .ready (s.answer service reply)

section Steps
variable {owner : Owner} {s s' : Scene σ H} {step : Step} {stage stage' : Stage H α}

theorem scene_same_enter (seen : List (Happening H)) : s.Same (s.enter owner seen) :=
  ⟨rfl, rfl, rfl⟩

theorem scene_same_speak (handle : H) (text : String) : s.Same (s.speak owner handle text).2 := by
  obtain ⟨⟨connector, handles, robot⟩, inFlight, journal⟩ := s
  cases connector <;> exact ⟨rfl, rfl, rfl⟩

theorem stage_getting (stepped : Stepped owner s step stage stage' s') :
    Getting s stage.standing (stage.gets s step) stage'.standing s' := by
  cases stepped with
  | finish result => exact .apart rfl rfl ⟨rfl, rfl, rfl⟩
  | log event next => exact .apart rfl rfl (scene_same_enter _)
  | offline service next none =>
    simp only [Stage.gets, none]
    exact .offline service none (scene_same_enter _)
  | known service next handle online kept =>
    obtain ⟨connector, online⟩ := Option.ne_none_iff_exists'.mp online
    simp only [Stage.gets, online, kept]
    exact .known service handle kept
  | wait service next online unknown =>
    obtain ⟨connector, online⟩ := Option.ne_none_iff_exists'.mp online
    simp only [Stage.gets, online, unknown]
    exact .wait service unknown
  | speak handle text next => exact .apart rfl rfl (scene_same_speak handle text)
  | learn service next handle online kept =>
    simp only [Stage.gets, kept]
    exact .learn service handle kept
  | lookUp service next connector online unknown free =>
    simp only [Stage.gets, unknown]
    exact .start service _ unknown free rfl rfl rfl
  | answer service reply next => exact .answer service reply _
  | hear text reply next => exact .apart rfl rfl ⟨rfl, rfl, rfl⟩

theorem errand_getting {errand new : Errand H}
    (stepped : errand.step? s step = some (new, s')) :
    Getting s errand.standing (errand.gets s step) new.standing s' := by
  cases errand_stepped stepped with
  | batch _ _ _ moved | payload _ _ _ moved | handle _ _ _ moved => exact stage_getting moved

end Steps

section Log
variable {log : GetLog H} {owner other : Owner} {service : String}

def deedsOf (owner : Owner) (log : GetLog H) : List (GetDeed H) :=
  log.filterMap fun d => if d.1 = owner then some d.2 else none

def successes (service : String) (log : GetLog H) : List H :=
  log.filterMap fun
    | (_, .answered name (.returned (.ok handle))) => if name = service then some handle else none
    | _ => none

/-- A deed that can only follow on certain others: a lookup starts only if none has succeeded, a
    handle is the one that a lookup has found, and whoever gets anything else has just made a lookup
    that came to this. -/
def Justified (log : GetLog H) : Owner × GetDeed H → Prop
  | (_, .started service) => successes service log = []
  | (_, .got service (.returned (.ok (some handle)))) => successes service log = [handle]
  | (owner, .got service reply) => ∃ earlier lookup, reply = found lookup ∧
      deedsOf owner log = earlier ++ [.asked service, .started service, .answered service lookup]
  | _ => True

def AllJustified (log : GetLog H) : Prop :=
  ∀ before d after, log = before ++ d :: after → Justified before d

theorem justified_append {d : Owner × GetDeed H} (all : AllJustified log)
    (last : Justified log d) : AllJustified (log ++ [d]) := by
  intro before d' after split
  rcases List.eq_nil_or_concat after with rfl | ⟨rest, last', rfl⟩
  · obtain ⟨rfl, same⟩ := List.append_inj' split rfl
    cases same
    exact last
  · rw [List.concat_eq_append, ← List.cons_append, ← List.append_assoc] at split
    exact all before d' rest (List.append_inj' split rfl).1

theorem deeds_append (more : GetLog H) :
    deedsOf owner (log ++ more) = deedsOf owner log ++ deedsOf owner more :=
  done_by_append more

theorem deeds_own (deeds : List (GetDeed H)) : deedsOf owner (deeds.map (owner, ·)) = deeds :=
  done_by_own deeds

theorem deeds_other (apart : other ≠ owner) (deeds : List (GetDeed H)) :
    deedsOf owner (deeds.map (other, ·)) = [] :=
  done_by_other apart deeds

theorem successes_append (more : GetLog H) :
    successes service (log ++ more) = successes service log ++ successes service more :=
  List.filterMap_append

end Log
end CommandGateway.Engine
