import CommandGateway.Proofs.Config.Rule

/- What an accepted configuration is read from: each field from its own variable, whatever the
   others are. What a field can be follows from the rule of its variable alone. -/
namespace CommandGateway

variable {α β : Type}

structure Config.ReadFrom (env : Environment) (c : Config) : Prop where
  bindAddress : env.trimmed "BIND_ADDRESS" Config.default.bindAddress addressOf =
    .ok c.bindAddress
  robotHost : env.hostName "ROBOT_HOST" Config.default.robotHost = .ok c.robotHost
  robotPort : env.trimmed "ROBOT_PORT" Config.default.robotPort (naturalOf portBound) =
    .ok c.robotPort
  offline : env.value "OFFLINE_MODE" Config.default.offline flagOf = .ok c.offline
  mode : env.trimmed "EXECUTION_MODE" Config.default.mode ExecutionMode.ofText = .ok c.mode
  workers : env.trimmed "WORKER_COUNT" Config.default.workers countOf = .ok c.workers
  capacity : env.trimmed "QUEUE_CAPACITY" Config.default.capacity countOf = .ok c.capacity
  retained : env.trimmed "RETAINED_JOBS" Config.default.retained (naturalOf countBound) =
    .ok c.retained
  service : env.value "TTS_SERVICE" Config.default.service .ok = .ok c.service
  commandsPath : env.value "COMMANDS_PATH" Config.default.commandsPath pathOf = .ok c.commandsPath
  logLevel : env.value "RUST_LOG" Config.default.logLevel levelOf = .ok c.logLevel

section Reading
variable {env : Environment} {c : Config}

theorem bind_ok {x : Except ConfigError α} {f : α → Except ConfigError β} {b : β}
    (ok : x >>= f = .ok b) : ∃ a, x = .ok a ∧ f a = .ok b := by
  cases x with
  | error e => cases ok
  | ok a => exact ⟨a, rfl, ok⟩

theorem value_ok {name : String} {fallback a : α} {read : String → Except String α}
    (ok : env.value name fallback read = .ok a) : a = fallback ∨ ∃ raw, read raw = .ok a := by
  unfold Environment.value at ok
  split at ok
  · exact Or.inl (Except.ok.inj ok).symm
  · rename_i raw set
    split at ok
    · rename_i a' taken
      exact Or.inr ⟨raw, Except.ok.inj ok ▸ taken⟩
    · cases ok

theorem of_environment_read (read : Config.ofEnvironment env = .ok c) : c.ReadFrom env := by
  obtain ⟨_, bindAddress, read⟩ := bind_ok read
  obtain ⟨_, robotHost, read⟩ := bind_ok read
  obtain ⟨_, robotPort, read⟩ := bind_ok read
  obtain ⟨_, offline, read⟩ := bind_ok read
  obtain ⟨_, mode, read⟩ := bind_ok read
  obtain ⟨_, workers, read⟩ := bind_ok read
  obtain ⟨_, capacity, read⟩ := bind_ok read
  obtain ⟨_, retained, read⟩ := bind_ok read
  obtain ⟨_, service, read⟩ := bind_ok read
  obtain ⟨_, commandsPath, read⟩ := bind_ok read
  obtain ⟨_, logLevel, read⟩ := bind_ok read
  obtain rfl := Except.ok.inj read
  exact ⟨bindAddress, robotHost, robotPort, offline, mode, workers, capacity, retained, service,
    commandsPath, logLevel⟩

theorem load_read {file : Option Bytes} (loaded : Config.load env file = .ok c) :
    ∃ whole, c.ReadFrom whole := by
  cases file with
  | none => exact ⟨_, of_environment_read loaded⟩
  | some file => exact ⟨_, of_environment_read loaded⟩

end Reading

section Counts
variable {env : Environment} {c : Config} {n : Nat} {s : String}

def IsCount (n : Nat) : Prop := 1 ≤ n ∧ n < countBound

theorem count_ok (read : countOf s = .ok n) : IsCount n := (count_iff.mp read).2

theorem trimmed_count {name : String} {fallback : Nat} (usual : IsCount fallback)
    (ok : env.trimmed name fallback countOf = .ok n) : IsCount n := by
  rcases value_ok ok with rfl | ⟨raw, read⟩
  · exact usual
  · exact count_ok read

theorem read_counts (read : c.ReadFrom env) : IsCount c.workers ∧ IsCount c.capacity := by
  have usual : IsCount Config.default.workers ∧ IsCount Config.default.capacity := by
    unfold IsCount
    decide
  exact ⟨trimmed_count usual.1 read.workers, trimmed_count usual.2 read.capacity⟩

end Counts
end CommandGateway
