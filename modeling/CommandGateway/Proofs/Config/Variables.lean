import CommandGateway.Proofs.Config
import CommandGateway.Proofs.Text.Utf8

/- The variables of the configuration, one for each field. Loading succeeds when each that is set to
   a text is taken by its rule, and then every field depends on its own variable alone; otherwise
   the first one that is not taken is named. -/
namespace CommandGateway

namespace Environment

/-- The bytes that stand first under a name are those of a text. -/
def Holds (env : Environment) (name raw : String) : Prop :=
  env.settings.lookup name = some raw.toUTF8.data.toList

/-- Nothing stands under a name, or bytes that no text has. -/
def Lacks (env : Environment) (name : String) : Prop :=
  ∀ bytes, env.settings.lookup name = some bytes → ∀ raw : String, raw.toUTF8.data.toList ≠ bytes

variable {env : Environment} {name raw : String}

theorem bytes_lookup (settings : List (String × Bytes)) :
    bytesOf name settings = settings.lookup name := by
  induction settings with
  | nil => rfl
  | cons setting rest ih =>
    obtain ⟨other, bytes⟩ := setting
    by_cases same : other = name
    · simp [bytesOf, same]
    · have apart : (name == other) = false := by simpa using Ne.symm same
      simp [bytesOf, List.lookup_cons, same, apart, ih]

theorem get_iff : env.get? name = some raw ↔ env.Holds name raw := by
  rw [get?, bytes_lookup, Option.bind_eq_some_iff]
  constructor
  · rintro ⟨bytes, found, spelt⟩
    exact found.trans (congrArg some (Text.utf8_of_bytes spelt).symm)
  · exact fun holds => ⟨_, holds, Text.of_utf8_utf8 raw⟩

theorem get_none_iff : env.get? name = none ↔ env.Lacks name := by
  constructor
  · rintro none bytes found raw rfl
    rw [get_iff.mpr found] at none
    cases none
  · intro lacks
    cases set : env.get? name with
    | none => rfl
    | some raw => exact absurd rfl (lacks _ (get_iff.mp set) raw)

theorem holds_unique {raw' : String} (holds : env.Holds name raw) (holds' : env.Holds name raw') :
    raw = raw' :=
  Option.some.inj ((get_iff.mpr holds).symm.trans (get_iff.mpr holds'))

theorem holds_or_lacks (env : Environment) (name : String) :
    (∃ raw, env.Holds name raw) ∨ env.Lacks name := by
  cases set : env.get? name with
  | none => exact .inr (get_none_iff.mp set)
  | some raw => exact .inl ⟨raw, get_iff.mp set⟩

end Environment

inductive Variable where
  | bindAddress
  | robotHost
  | robotPort
  | offlineMode
  | executionMode
  | workerCount
  | queueCapacity
  | retainedJobs
  | ttsService
  | commandsPath
  | rustLog
  deriving DecidableEq

namespace Variable

def name : Variable → String
  | .bindAddress => "BIND_ADDRESS"
  | .robotHost => "ROBOT_HOST"
  | .robotPort => "ROBOT_PORT"
  | .offlineMode => "OFFLINE_MODE"
  | .executionMode => "EXECUTION_MODE"
  | .workerCount => "WORKER_COUNT"
  | .queueCapacity => "QUEUE_CAPACITY"
  | .retainedJobs => "RETAINED_JOBS"
  | .ttsService => "TTS_SERVICE"
  | .commandsPath => "COMMANDS_PATH"
  | .rustLog => "RUST_LOG"

def rule : Variable → Rule
  | .bindAddress => .address
  | .robotHost => .host
  | .robotPort => .natural (2 ^ 16)
  | .offlineMode => .flag
  | .executionMode => .mode
  | .workerCount => .count
  | .queueCapacity => .count
  | .retainedJobs => .natural (2 ^ 64)
  | .ttsService => .text
  | .commandsPath => .path
  | .rustLog => .level

theorem zero_octet : 0 < 256 := by decide

def usual : Variable → Setting
  | .bindAddress =>
    .address (.v4 ⟨⟨0, zero_octet⟩, ⟨0, zero_octet⟩, ⟨0, zero_octet⟩, ⟨0, zero_octet⟩⟩ 5000)
  | .robotHost => .text "192.168.2.196"
  | .robotPort => .number 9559
  | .offlineMode => .flag true
  | .executionMode => .mode .async
  | .workerCount => .number 1
  | .queueCapacity => .number 64
  | .retainedJobs => .number 256
  | .ttsService => .text "ALTextToSpeech"
  | .commandsPath => .text "/api/commands"
  | .rustLog => .level .info

/-- The order in which the variables are looked at. -/
def all : List Variable :=
  [.bindAddress, .robotHost, .robotPort, .offlineMode, .executionMode, .workerCount,
    .queueCapacity, .retainedJobs, .ttsService, .commandsPath, .rustLog]

end Variable

def Config.setting (c : Config) : Variable → Setting
  | .bindAddress => .address c.bindAddress
  | .robotHost => .text c.robotHost
  | .robotPort => .number c.robotPort
  | .offlineMode => .flag c.offline
  | .executionMode => .mode c.mode
  | .workerCount => .number c.workers
  | .queueCapacity => .number c.capacity
  | .retainedJobs => .number c.retained
  | .ttsService => .text c.service
  | .commandsPath => .text c.commandsPath
  | .rustLog => .level c.logLevel

/-- Errors that name a variable. An empty host has one of its own. -/
inductive ConfigError.Names : ConfigError → Variable → Prop
  | invalid (v : Variable) (reason : String) : Names (.invalid v.name reason) v
  | empty : Names (.missing (Variable.robotHost.name ++ " must not be empty")) .robotHost

def Broken (env : Environment) (v : Variable) : Prop :=
  ∃ raw, env.Holds v.name raw ∧ ∀ s, ¬ v.rule.Takes raw s

section Names
variable {v w : Variable} {e : ConfigError}

theorem name_injective (same : v.name = w.name) : v = w := by
  have listed : ∀ v : Variable, v ∈ Variable.all := by
    intro v
    cases v <;> decide
  have apart : ∀ v ∈ Variable.all, ∀ w ∈ Variable.all, v.name = w.name → v = w := by decide
  exact apart v (listed v) w (listed w) same

theorem names_unique (names : e.Names v) (names' : e.Names w) : v = w := by
  cases names with
  | invalid v reason =>
    generalize named : ConfigError.invalid v.name reason = e at names'
    cases names' with
    | invalid w reason' => exact name_injective (ConfigError.invalid.inj named).1
    | empty => cases named
  | empty => cases names' with
    | empty => rfl

end Names

section Single
variable {α : Type} {env : Environment} {v : Variable} {e : ConfigError} {s : Setting}

def Variable.read (env : Environment) (v : Variable) : Except ConfigError Setting :=
  match v with
  | .robotHost => (env.hostName v.name Config.default.robotHost).map .text
  | v => env.value v.name (Config.default.setting v) v.rule.read

inductive Reading (env : Environment) (v : Variable) : Except ConfigError Setting → Prop
  | unset (lacks : env.Lacks v.name) : Reading env v (.ok v.usual)
  | taken {raw : String} {s : Setting} (holds : env.Holds v.name raw)
      (takes : v.rule.Takes raw s) : Reading env v (.ok s)
  | refused {e : ConfigError} (broken : Broken env v) (names : e.Names v) : Reading env v (.error e)

theorem value_map (env : Environment) (name : String) (fallback : α)
    (read : String → Except String α) (g : α → Setting) :
    (env.value name fallback read).map g =
      env.value name (g fallback) fun raw => (read raw).map g := by
  unfold Environment.value
  cases env.get? name with
  | none => rfl
  | some raw => cases taken : read raw <;> simp [taken, Except.map]

theorem map_read {name : String} {fallback a : α} {read : String → Except String α}
    (g : α → Setting) (taken : env.value name fallback read = .ok a) :
    env.value name (g fallback) (fun raw => (read raw).map g) = .ok (g a) := by
  rw [← value_map, taken]
  rfl

theorem default_usual (v : Variable) : Config.default.setting v = v.usual := by
  cases v <;> rfl

theorem value_reading (v : Variable) :
    Reading env v (env.value v.name (Config.default.setting v) v.rule.read) := by
  unfold Environment.value
  cases set : env.get? v.name with
  | none =>
    rw [default_usual]
    exact .unset (Environment.get_none_iff.mp set)
  | some raw =>
    have holds := Environment.get_iff.mp set
    simp only
    cases read : v.rule.read raw with
    | ok s => exact .taken holds (takes_iff.mp read)
    | error reason =>
      refine .refused ⟨raw, holds, fun s takes => ?_⟩ (.invalid v reason)
      simp [takes_iff.mpr takes] at read

theorem host_reading (env : Environment) :
    Reading env .robotHost (Variable.robotHost.read env) := by
  unfold Variable.read Environment.hostName
  cases set : env.get? Variable.robotHost.name with
  | none => exact .unset (Environment.get_none_iff.mp set)
  | some raw =>
    have holds := Environment.get_iff.mp set
    by_cases blank : Text.isBlankText raw
    · have refused : Rule.host.read raw = .error "must not be empty" := by
        simp [Rule.read, hostOf, blank, Except.map]
      simp only [blank, if_true]
      refine .refused ⟨raw, holds, fun s takes => ?_⟩ .empty
      cases refused.symm.trans (takes_iff.mpr takes)
    · have taken : Rule.host.read raw = .ok (.text raw) := by
        simp [Rule.read, hostOf, blank, Except.map]
      simp only [blank]
      exact .taken holds (takes_iff.mp taken)

theorem variable_reading (env : Environment) (v : Variable) : Reading env v (v.read env) := by
  cases v
  case robotHost => exact host_reading env
  all_goals exact value_reading _

end Single

section Together
variable {α β : Type} {env env' : Environment} {c c' : Config} {e : ConfigError}

def FirstRefused (env : Environment) (e : ConfigError) (vs : List Variable) : Prop :=
  ∃ before v after, vs = before ++ v :: after ∧ (∀ w ∈ before, ∃ s, w.read env = .ok s) ∧
    v.read env = .error e

theorem refusal_bind {v : Variable} {vs : List Variable} {x : Except ConfigError α}
    {f : α → Except ConfigError β} (g : α → Setting) (own : x.map g = v.read env)
    (later : ∀ a, f a = .error e → FirstRefused env e vs) (refused : x >>= f = .error e) :
    FirstRefused env e (v :: vs) := by
  cases x with
  | error e' =>
    obtain rfl : e' = e := Except.error.inj refused
    exact ⟨[], v, vs, rfl, by simp, own.symm⟩
  | ok a =>
    obtain ⟨before, w, after, rfl, taken, last⟩ := later a refused
    refine ⟨v :: before, w, after, rfl, ?_, last⟩
    exact List.forall_mem_cons.mpr ⟨⟨g a, own.symm⟩, taken⟩

theorem first_refused (refused : Config.ofEnvironment env = .error e) :
    FirstRefused env e Variable.all := by
  unfold Config.ofEnvironment at refused
  revert refused
  refine refusal_bind .address (value_map ..) fun _ => ?_
  refine refusal_bind .text rfl fun _ => ?_
  refine refusal_bind .number (value_map ..) fun _ => ?_
  refine refusal_bind .flag (value_map ..) fun _ => ?_
  refine refusal_bind .mode (value_map ..) fun _ => ?_
  refine refusal_bind .number (value_map ..) fun _ => ?_
  refine refusal_bind .number (value_map ..) fun _ => ?_
  refine refusal_bind .number (value_map ..) fun _ => ?_
  refine refusal_bind .text (value_map ..) fun _ => ?_
  refine refusal_bind .text (value_map ..) fun _ => ?_
  refine refusal_bind .level (value_map ..) fun _ => ?_
  simp

theorem settings_read (loaded : Config.ofEnvironment env = .ok c) (v : Variable) :
    v.read env = .ok (c.setting v) := by
  have read := of_environment_read loaded
  cases v
  case bindAddress => exact (map_read Setting.address read.bindAddress :)
  case robotHost => exact congrArg (Except.map Setting.text) read.robotHost
  case robotPort => exact (map_read Setting.number read.robotPort :)
  case offlineMode => exact (map_read Setting.flag read.offline :)
  case executionMode => exact (map_read Setting.mode read.mode :)
  case workerCount => exact (map_read Setting.number read.workers :)
  case queueCapacity => exact (map_read Setting.number read.capacity :)
  case retainedJobs => exact (map_read Setting.number read.retained :)
  case ttsService => exact (map_read Setting.text read.service :)
  case commandsPath => exact (map_read Setting.text read.commandsPath :)
  case rustLog => exact (map_read Setting.level read.logLevel :)

theorem refused_broken {v : Variable} (refused : v.read env = .error e) :
    Broken env v ∧ e.Names v := by
  have reading := variable_reading env v
  rw [refused] at reading
  cases reading with
  | refused broken names => exact ⟨broken, names⟩

theorem read_taken {v : Variable} {s : Setting} {raw : String} (taken : v.read env = .ok s)
    (holds : env.Holds v.name raw) : v.rule.Takes raw s := by
  have reading := variable_reading env v
  rw [taken] at reading
  cases reading with
  | unset lacks => exact absurd rfl (lacks _ holds raw)
  | taken holds' takes =>
    obtain rfl := Environment.holds_unique holds holds'
    exact takes

theorem taken_unbroken {v : Variable} {s : Setting} (taken : v.read env = .ok s) :
    ¬ Broken env v := by
  rintro ⟨raw, holds, refuses⟩
  exact refuses s (read_taken taken holds)

theorem read_unset {v : Variable} {s : Setting} (taken : v.read env = .ok s)
    (lacks : env.Lacks v.name) : s = v.usual := by
  have reading := variable_reading env v
  rw [taken] at reading
  cases reading with
  | unset => rfl
  | taken holds takes => exact absurd rfl (lacks _ holds _)

theorem read_agrees {v : Variable} {s s' : Setting} (taken : v.read env = .ok s)
    (taken' : v.read env' = .ok s') (same : ∀ raw, env.Holds v.name raw ↔ env'.Holds v.name raw) :
    s = s' := by
  rcases env.holds_or_lacks v.name with ⟨raw, holds⟩ | lacks
  · exact takes_unique (read_taken taken holds) (read_taken taken' ((same raw).mp holds))
  · rcases env'.holds_or_lacks v.name with ⟨raw, holds⟩ | lacks'
    · exact absurd rfl (lacks _ ((same raw).mpr holds) raw)
    · rw [read_unset taken lacks, read_unset taken' lacks']

/-- What the variables say of an attempt to load the configuration. The name of the service may be
    any text, so the first that is not taken is one of the others; it is named, and no other is. -/
structure Governed (env : Environment) (loaded : Except ConfigError Config) : Prop where
  fails : (∃ e, loaded = .error e) ↔ ∃ v, Broken env v
  first : ∀ e, loaded = .error e → ∃ before v after, Variable.all = before ++ v :: after ∧
    (∀ w ∈ before, ¬ Broken env w) ∧ Broken env v ∧ v ≠ .ttsService ∧ ∀ w, e.Names w ↔ w = v
  taken : ∀ c, loaded = .ok c → ∀ (v : Variable) raw, env.Holds v.name raw →
    v.rule.Takes raw (c.setting v)
  unset : ∀ c, loaded = .ok c → ∀ v : Variable, env.Lacks v.name → c.setting v = v.usual
  own : ∀ c, loaded = .ok c → ∀ env' c', Config.load env' none = .ok c' → ∀ v : Variable,
    (∀ raw, env.Holds v.name raw ↔ env'.Holds v.name raw) → c.setting v = c'.setting v

theorem service_unbroken : ¬ Broken env .ttsService := by
  rintro ⟨raw, -, refuses⟩
  exact refuses _ .text

theorem variables_govern_configuration (env : Environment) :
    Governed env (Config.load env none) := by
  have refusal : ∀ e, Config.load env none = .error e → FirstRefused env e Variable.all :=
    fun e refused => first_refused refused
  constructor
  case fails =>
    constructor
    · rintro ⟨e, refused⟩
      obtain ⟨-, v, -, -, -, last⟩ := refusal e refused
      exact ⟨v, (refused_broken last).1⟩
    · rintro ⟨v, broken⟩
      cases loaded : Config.load env none with
      | error e => exact ⟨e, rfl⟩
      | ok c => exact absurd broken (taken_unbroken (settings_read loaded v))
  case first =>
    intro e refused
    obtain ⟨before, v, after, order, earlier, last⟩ := refusal e refused
    obtain ⟨broken, names⟩ := refused_broken last
    refine ⟨before, v, after, order, fun w member => ?_, broken, ?_, fun w => ⟨?_, ?_⟩⟩
    · obtain ⟨s, taken⟩ := earlier w member
      exact taken_unbroken taken
    · rintro rfl
      exact service_unbroken broken
    · exact fun named => names_unique named names
    · rintro rfl
      exact names
  case taken =>
    intro c loaded v raw holds
    exact read_taken (settings_read loaded v) holds
  case unset =>
    intro c loaded v lacks
    exact read_unset (settings_read loaded v) lacks
  case own =>
    intro c loaded env' c' loaded' v same
    exact read_agrees (settings_read loaded v) (settings_read loaded' v) same

end Together

/-- Blanks, a sign and capitals do not matter; bytes that are no text count for nothing. -/
def looseSettings : Environment :=
  ⟨[("WORKER_COUNT", Text.utf8 " +007\t"), ("OFFLINE_MODE", Text.utf8 "OFF "),
    ("EXECUTION_MODE", Text.utf8 "Sync\n"), ("ROBOT_PORT", [0x39, 0xff])]⟩

/-- Of the two that no rule takes the first is named; the bytes before it are no text. -/
def wrongSettings : Environment :=
  ⟨[("QUEUE_CAPACITY", Text.utf8 "many"), ("WORKER_COUNT", Text.utf8 "0"),
    ("ROBOT_PORT", [0x39, 0xff])]⟩

theorem loose_settings_taken_wrong_refused :
    (∃ c, Config.load looseSettings none = .ok c ∧ c.workers = 7 ∧ c.offline = false ∧
      c.mode = .sync ∧ c.robotPort = 9559 ∧ Governed looseSettings (.ok c)) ∧
    ∃ e, Config.load wrongSettings none = .error e ∧
      e = .invalid "WORKER_COUNT" "must be at least 1" ∧ Governed wrongSettings (.error e) := by
  have taken : Config.load looseSettings none = .ok _ := rfl
  have refused : Config.load wrongSettings none = .error _ := rfl
  exact ⟨⟨_, taken, rfl, rfl, rfl, rfl, taken ▸ variables_govern_configuration looseSettings⟩,
    _, refused, rfl, refused ▸ variables_govern_configuration wrongSettings⟩

end CommandGateway
