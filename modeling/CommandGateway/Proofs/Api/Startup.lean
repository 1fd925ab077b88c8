import CommandGateway.Api.Startup
import CommandGateway.Proofs.Api.Reference

/- With which of the accepted configurations a gateway comes up. The rules for the configuration
   bound its counts from below only, and do not look at the paths that are taken; so a queue, a crew
   or a table of routes may be asked for that there cannot be. -/
namespace CommandGateway.Api

open Pool Engine

variable {σ H : Type}

theorem mountable_iff {commandsPath : String} :
    isMountable commandsPath = true ↔ commandsPath ≠ pagesPath := by
  constructor
  · rintro mounted rfl
    exact absurd mounted (by decide)
  · exact mountable

/-- The queue and the list of workers that are asked for can be made, if there are to be any. -/
def Fits (c : Config) : Prop :=
  c.mode = .async → c.capacity ≤ largestCapacity ∧ c.workers ≤ largestCrew

def Startable (c : Config) : Prop := Fits c ∧ c.commandsPath ≠ pagesPath

/-- What takes all pages of the documentation browser, which the status of a job would be one of. -/
def pagesMount : Mount := ⟨.below (pagesPath ++ "/"), .get, .pages⟩

/-- The panic that a configuration ends in at the first part that cannot be made. -/
inductive Refused (c : Config) : Panic → Prop
  | queue (queued : c.mode = .async) (long : largestCapacity < c.capacity) :
      Refused c (.text capacityText)
  | crew (queued : c.mode = .async) (room : c.capacity ≤ largestCapacity)
      (many : largestCrew < c.workers) : Refused c (.text crewText)
  | routes (fits : Fits c) (shared : c.commandsPath = pagesPath) :
      Refused c (.text (clashText (statusMount pagesPath) pagesMount))

structure Launched (c : Config) (launched : Ended (Gateway σ H)) (up : Gateway σ H) : Prop where
  handed : max c.capacity 1 = c.capacity ∧ max c.workers 1 = c.workers
  table : isMountable c.commandsPath = true ↔ c.commandsPath ≠ pagesPath
  starts : launched = .returned up ↔ Startable c
  panics : ∀ p, launched = .panicked p ↔ Refused c p
  ends : launched = .returned up ∨ ∃ p, launched = .panicked p

section Launches
variable {c : Config} {rota : Rota σ H} {p : Panic}

theorem unstartable_refused (unfit : ¬ Startable c) : ∃ p, Refused c p := by
  by_cases fits : Fits c
  · have shared : c.commandsPath = pagesPath := by
      by_contra apart
      exact unfit ⟨fits, apart⟩
    exact ⟨_, .routes fits shared⟩
  · obtain ⟨queued, beyond⟩ := Classical.not_imp.mp fits
    by_cases room : c.capacity ≤ largestCapacity
    · have many : largestCrew < c.workers := by omega
      exact ⟨_, .crew queued room many⟩
    · have long : largestCapacity < c.capacity := by omega
      exact ⟨_, .queue queued long⟩

theorem mount_apart (apart : c.commandsPath ≠ pagesPath) :
    Gateway.mount c rota = .returned ⟨c, rota⟩ := by
  obtain ⟨whole, mounted⟩ := mountable_iff_mounted.mp (mountable apart)
  simp only [Gateway.mount, mounted]

theorem mount_shared (shared : c.commandsPath = pagesPath) : Gateway.mount c rota =
    .panicked (.text (clashText (statusMount pagesPath) pagesMount)) := by
  have clash : mountAll [] (mounts pagesPath) = .error (statusMount pagesPath, pagesMount) := rfl
  simp only [Gateway.mount, shared, clash]

theorem count_handed {n : Nat} (count : IsCount n) : max n 1 = n := Nat.max_eq_left count.1

theorem pool_launched (counts : IsCount c.workers ∧ IsCount c.capacity) (fits : Fits c) :
    launchPool c = .returned (poolFor c) := by
  unfold launchPool poolFor
  cases mode : c.mode with
  | sync => rfl
  | async =>
    obtain ⟨room, crew⟩ := fits mode
    simp only [Pool.launch, count_handed counts.1, count_handed counts.2]
    rw [if_neg (Nat.not_lt.mpr room), if_neg (Nat.not_lt.mpr crew)]

theorem startable_launch (counts : IsCount c.workers ∧ IsCount c.capacity)
    (startable : Startable c) (registry : Registry H) (accessor : Accessor σ H) (gate : Gate) :
    Gateway.launch c registry accessor gate = .returned (.start c registry accessor gate) := by
  simp only [Gateway.launch, pool_launched counts startable.1, mount_apart startable.2]
  rfl

theorem refused_launch (counts : IsCount c.workers ∧ IsCount c.capacity) (refused : Refused c p)
    (registry : Registry H) (accessor : Accessor σ H) (gate : Gate) :
    Gateway.launch c registry accessor gate = .panicked p := by
  cases refused with
  | queue queued long =>
    simp only [Gateway.launch, launchPool, queued, Pool.launch, count_handed counts.2]
    rw [if_pos long]
  | crew queued room many =>
    simp only [Gateway.launch, launchPool, queued, Pool.launch, count_handed counts.1,
      count_handed counts.2]
    rw [if_neg (Nat.not_lt.mpr room), if_pos many]
  | routes fits shared => simp only [Gateway.launch, pool_launched counts fits, mount_shared shared]

/-- A gateway comes up with an accepted configuration unless the capacity of its queue or the number
    of its workers is beyond what there can be, or commands are taken where the documentation
    browser is. -/
theorem loaded_gateway_launches {env : Environment} {file : Option Bytes}
    (loaded : Config.load env file = .ok c) (registry : Registry H) (accessor : Accessor σ H)
    (gate : Gate) :
    Launched c (Gateway.launch c registry accessor gate)
      (Gateway.start c registry accessor gate) := by
  obtain ⟨whole, read⟩ := load_read loaded
  have counts := read_counts read
  have returns := fun startable : Startable c =>
    startable_launch counts startable registry accessor gate
  have panics := fun (p : Panic) (refused : Refused c p) =>
    refused_launch counts refused registry accessor gate
  constructor
  case handed => exact ⟨count_handed counts.2, count_handed counts.1⟩
  case table => exact mountable_iff
  case starts =>
    refine ⟨fun returned => ?_, returns⟩
    by_contra unfit
    obtain ⟨p, refused⟩ := unstartable_refused unfit
    cases returned.symm.trans (panics p refused)
  case panics =>
    refine fun p => ⟨fun panicked => ?_, panics p⟩
    by_cases startable : Startable c
    · cases panicked.symm.trans (returns startable)
    · obtain ⟨q, refused⟩ := unstartable_refused startable
      cases panicked.symm.trans (panics q refused)
      exact refused
  case ends =>
    by_cases startable : Startable c
    · exact .inl (returns startable)
    · obtain ⟨p, refused⟩ := unstartable_refused startable
      exact .inr ⟨p, panics p refused⟩

end Launches

def holding (places : Nat) : Config := { Config.default with capacity := places }

def staffed (workers : Nat) : Config := { Config.default with workers := workers }

def offlineLaunch (c : Config) : Ended (Gateway Unit Unit) :=
  Gateway.launch c (.standard c.service) (.offline ()) ⟨true, []⟩

theorem longest_queue_launches :
    Config.load (Environment.set ⟨[]⟩ "QUEUE_CAPACITY" "2305843009213693951") none =
      .ok (holding 2305843009213693951) ∧
    offlineLaunch (holding 2305843009213693951) =
      .returned (.standard (holding 2305843009213693951) (.offline ()) ⟨true, []⟩) := by
  have loaded : Config.load (Environment.set ⟨[]⟩ "QUEUE_CAPACITY" "2305843009213693951") none =
      .ok (holding 2305843009213693951) := rfl
  have launched := loaded_gateway_launches loaded (.standard "ALTextToSpeech")
    (.offline () : Accessor Unit Unit) ⟨true, []⟩
  have fits : Fits (holding 2305843009213693951) := fun _ => by decide
  exact ⟨loaded, launched.starts.mpr ⟨fits, by decide⟩⟩

theorem accepted_configurations_panic :
    (Config.load (Environment.set ⟨[]⟩ "QUEUE_CAPACITY" "2305843009213693952") none =
        .ok (holding 2305843009213693952) ∧
      offlineLaunch (holding 2305843009213693952) = .panicked (.text capacityText)) ∧
    (Config.load (Environment.set ⟨[]⟩ "WORKER_COUNT" "1152921504606846976") none =
        .ok (staffed 1152921504606846976) ∧
      offlineLaunch (staffed 1152921504606846976) = .panicked (.text crewText)) ∧
    Config.load (pathEnvironment "/swagger-ui") none = .ok (takingAt "/swagger-ui") ∧
      offlineLaunch (takingAt "/swagger-ui") =
        .panicked (.text (clashText (statusMount pagesPath) pagesMount)) :=
  ⟨⟨rfl, rfl⟩, ⟨rfl, rfl⟩, rfl, rfl⟩

end CommandGateway.Api
