import CommandGateway.Config

/- What a file of variables adds to an environment. Variables that are set stay, of several entries
   for one name the first counts, and a malformed line does no more than end the file; then the
   configuration is that of the filled environment. The exception is a value with a zero in it,
   which no variable can hold: where one is to be set, nothing is loaded at all. -/
namespace CommandGateway

open Dotenv

/-- The environment with the first of the entries for each name that it does not hold, and with
    nothing else. -/
def Fills (env : Environment) (es : List (String × String)) (whole : Environment) : Prop :=
  ∀ name, whole.get? name = (env.get? name).or (valueIn es name)

/-- Each value that is to be set can be. -/
def Settable (env : Environment) (es : List (String × String)) : Prop :=
  ∀ name value, env.get? name = none → valueIn es name = some value → '\x00' ∉ value.toList

/-- An entry that is to be set and cannot be. -/
structure Stuck (env : Environment) (es : List (String × String)) (e : String × String) : Prop where
  first : ∃ before after, es = before ++ e :: after ∧ valueIn before e.1 = none
  unset : env.get? e.1 = none
  zero : '\x00' ∈ e.2.toList

section Entries
variable {env whole whole' : Environment} {e : String × String} {es before : List (String × String)}

theorem value_cons (e : String × String) (es : List (String × String)) (name : String) :
    valueIn (e :: es) name = if e.1 = name then some e.2 else valueIn es name := by
  by_cases same : e.1 = name <;> simp [valueIn, same]

theorem value_append (es es' : List (String × String)) (name : String) :
    valueIn (es ++ es') name = (valueIn es name).or (valueIn es' name) := by
  induction es with
  | nil => simp [valueIn]
  | cons e es ih =>
    rw [List.cons_append, value_cons, value_cons, ih]
    by_cases same : e.1 = name <;> simp [same]

theorem mem_of_value {name value : String} (found : valueIn es name = some value) :
    (name, value) ∈ es := by
  induction es with
  | nil => simp [valueIn] at found
  | cons e es ih =>
    rw [value_cons] at found
    by_cases same : e.1 = name
    · obtain rfl : e.2 = value := by simpa [same] using found
      exact same ▸ List.mem_cons_self
    · exact List.mem_cons_of_mem _ (ih (by simpa [same] using found))

theorem get_extend (env : Environment) (e : String × String) (name : String) :
    (env.extend e).get? name = (env.get? name).or (if e.1 = name then some e.2 else none) := by
  unfold Environment.extend
  cases own : env.get? e.1 with
  | some value =>
    by_cases same : e.1 = name
    · simp [← same, own]
    · simp [same]
  | none =>
    simp only [Environment.get_set]
    by_cases same : e.1 = name
    · simp [← same, own]
    · simp [same]

theorem get_extend_eq_none_iff {name : String} :
    (env.extend e).get? name = none ↔ env.get? name = none ∧ e.1 ≠ name := by
  rw [get_extend]
  by_cases same : e.1 = name <;> simp [same]

theorem extended_fills (env : Environment) (es : List (String × String)) :
    Fills env es (es.foldl Environment.extend env) := by
  intro name
  -- each entry fills what the ones before it have left
  induction es generalizing env with
  | nil => simp [valueIn]
  | cons e es ih =>
    rw [List.foldl_cons, ih, get_extend, value_cons, Option.or_assoc]
    by_cases same : e.1 = name <;> simp [same]

theorem settable_of_clean (clean : ∀ e ∈ es, '\x00' ∉ e.2.toList) : Settable env es :=
  fun _ _ _ found => clean _ (mem_of_value found)

theorem settable_cons : Settable env (e :: es) ↔
    (env.get? e.1 = none → '\x00' ∉ e.2.toList) ∧ Settable (env.extend e) es := by
  constructor
  · intro settable
    refine ⟨fun unset => settable e.1 e.2 unset (by simp [value_cons]), ?_⟩
    intro name value unset found
    obtain ⟨unset, other⟩ := get_extend_eq_none_iff.mp unset
    exact settable name value unset (by simp [value_cons, other, found])
  · rintro ⟨own, others⟩ name value unset found
    by_cases same : e.1 = name
    · obtain rfl : e.2 = value := by simpa [value_cons, same] using found
      exact own (same ▸ unset)
    · rw [value_cons, if_neg same] at found
      exact others name value (get_extend_eq_none_iff.mpr ⟨unset, same⟩) found

theorem adopt_cases (env : Environment) (e : String × String) :
    (env.get? e.1 = none → '\x00' ∉ e.2.toList) ∧ adopt env e = .returned (env.extend e) ∨
      (env.get? e.1 = none ∧ '\x00' ∈ e.2.toList) ∧
        adopt env e = .panicked (.text (unsettableText e.1 e.2)) := by
  unfold adopt Environment.extend
  cases env.get? e.1 with
  | some value => simp
  | none => by_cases zero : '\x00' ∈ e.2.toList <;> simp [zero]

theorem adopt_all_settable (settable : Settable env es) :
    adoptAll env es = .returned (es.foldl Environment.extend env) := by
  induction es generalizing env with
  | nil => rfl
  | cons e es ih =>
    obtain ⟨own, others⟩ := settable_cons.mp settable
    rcases adopt_cases env e with ⟨-, adopted⟩ | ⟨⟨unset, zero⟩, -⟩
    · rw [adoptAll, adopted, List.foldl_cons]
      exact ih others
    · exact absurd zero (own unset)

theorem adopt_all_stuck (unsettable : ¬ Settable env es) :
    ∃ e, Stuck env es e ∧ adoptAll env es = .panicked (.text (unsettableText e.1 e.2)) := by
  induction es generalizing env with
  | nil =>
    refine absurd (fun name value unset found => ?_) unsettable
    simp [valueIn] at found
  | cons e es ih =>
    rw [adoptAll]
    rcases adopt_cases env e with ⟨own, adopted⟩ | ⟨⟨unset, zero⟩, refused⟩
    · have later : ¬ Settable (env.extend e) es := fun others =>
        unsettable (settable_cons.mpr ⟨own, others⟩)
      obtain ⟨e', ⟨⟨before, after, rfl, none⟩, unset, zero⟩, refused⟩ := ih later
      obtain ⟨unset, other⟩ := get_extend_eq_none_iff.mp unset
      rw [adopted]
      exact ⟨e', ⟨⟨e :: before, after, rfl, by rw [value_cons, if_neg other, none]⟩, unset, zero⟩,
        refused⟩
    · rw [refused]
      exact ⟨e, ⟨⟨[], es, rfl, rfl⟩, unset, zero⟩, rfl⟩

/-- A line is read in the environment that the entries before it have left, so entries may as well
    be set as soon as their lines are read. -/
theorem adopt_all_line (env : Environment) (before : List (String × String)) (line : List Char)
    (rest : List (Option (List Char))) :
    adoptAll env (entriesFrom env before (some line :: rest)) =
      match readLine (meaning env before) line with
      | .nothing => adoptAll env (entriesFrom env before rest)
      | .malformed => .returned env
      | .entry name value =>
        match adopt env (name, value) with
        | .returned env => adoptAll env (entriesFrom env ((name, value) :: before) rest)
        | .panicked p => .panicked p := by
  rw [entriesFrom]
  cases readLine (meaning env before) line with
  | nothing => rfl
  | malformed => rfl
  | entry name value =>
    simp only [adoptAll]
    rcases adopt_cases env (name, value) with ⟨-, adopted⟩ | ⟨-, refused⟩
    · rw [adopted]
    · rw [refused]

end Entries

section Lines
variable {env : Environment} {before : List (String × String)}

def BreaksOff (env : Environment) (before : List (String × String)) :
    Option (List Char) → Prop
  | none => True
  | some line => readLine (meaning env before) line = .malformed

theorem entries_cut {good rest : List (Option (List Char))} {line : Option (List Char)}
    (bad : BreaksOff ((entriesFrom env before good).foldl Environment.extend env)
      ((entriesFrom env before good).reverse ++ before) line) :
    entriesFrom env before (good ++ line :: rest) = entriesFrom env before good := by
  induction good generalizing env before with
  | nil =>
    cases line with
    | none => rfl
    | some line =>
      have malformed : readLine (meaning env before) line = .malformed := bad
      simp [entriesFrom, malformed]
  | cons first good ih =>
    cases first with
    | none => rfl
    | some first =>
      rw [List.cons_append, entriesFrom, entriesFrom]
      cases own : readLine (meaning env before) first with
      | nothing =>
        simp only [entriesFrom, own] at bad
        exact ih bad
      | malformed => rfl
      | entry name value =>
        simp only [entriesFrom, own, List.foldl_cons, List.reverse_cons, List.append_assoc,
          List.singleton_append] at bad
        exact congrArg _ (ih bad)

end Lines

section Loading
variable {env env' whole : Environment} {file : Bytes} {es : List (String × String)}

/-- The configuration is read by looking variables up, and in no other way. -/
theorem of_environment_congr (same : ∀ name, env.get? name = env'.get? name) :
    Config.ofEnvironment env = Config.ofEnvironment env' := by
  simp only [Config.ofEnvironment, Environment.trimmed, Environment.value, Environment.hostName,
    same]

theorem obtain_eq (env : Environment) (file : Bytes) : Config.obtain env (some file) =
    match adoptAll env (entries env file) with
    | .returned whole => .returned (Config.ofEnvironment whole)
    | .panicked p => .panicked p :=
  rfl

theorem obtain_settable (settable : Settable env (entries env file)) :
    Config.obtain env (some file) = .returned (Config.load env (some file)) := by
  rw [obtain_eq, adopt_all_settable settable]
  rfl

theorem obtained_loaded {file : Option Bytes} {loaded : Except ConfigError Config}
    (obtained : Config.obtain env file = .returned loaded) : Config.load env file = loaded := by
  cases file with
  | none => exact Ended.returned.inj obtained
  | some file =>
    by_cases settable : Settable env (entries env file)
    · exact Ended.returned.inj ((obtain_settable settable).symm.trans obtained)
    · obtain ⟨e, -, refused⟩ := adopt_all_stuck settable
      simp [obtain_eq, refused] at obtained

/-- What loading comes to with a file of variables. -/
structure Filled (env : Environment) (file : Bytes) : Prop where
  filling : ∃ whole, Fills env (entries env file) whole
  same : Settable env (entries env file) → ∀ whole, Fills env (entries env file) whole →
    Config.obtain env (some file) = Config.obtain whole none
  kept : ∀ whole, Fills env (entries env file) whole → ∀ name value,
    env.get? name = some value → whole.get? name = some value
  first : ∀ whole, Fills env (entries env file) whole → ∀ before name value after,
    entries env file = before ++ (name, value) :: after → valueIn before name = none →
      env.get? name = none → whole.get? name = some value
  cut : ∀ good line rest, fileLines file = good ++ line :: rest →
    BreaksOff ((entriesFrom env [] good).foldl Environment.extend env)
      (entriesFrom env [] good).reverse line → entries env file = entriesFrom env [] good
  stops : ¬ Settable env (entries env file) → ∃ e, Stuck env (entries env file) e ∧
    Config.obtain env (some file) = .panicked (.text (unsettableText e.1 e.2))

theorem file_fills_environment (env : Environment) (file : Bytes) : Filled env file := by
  constructor
  case filling => exact ⟨_, extended_fills env (entries env file)⟩
  case same =>
    intro settable whole fills
    have same : Config.ofEnvironment (Dotenv.load env file) = Config.ofEnvironment whole :=
      of_environment_congr fun name =>
        (extended_fills env (entries env file) name).trans (fills name).symm
    exact (obtain_settable settable).trans (congrArg Ended.returned same)
  case kept =>
    intro whole fills name value set
    simp [fills name, set]
  case first =>
    intro whole fills before name value after order none unset
    rw [fills name, unset, order, value_append, none, value_cons]
    simp
  case cut =>
    intro good line rest order bad
    rw [entries, order]
    exact entries_cut (by simpa using bad)
  case stops =>
    intro unsettable
    obtain ⟨e, stuck, refused⟩ := adopt_all_stuck unsettable
    exact ⟨e, stuck, by rw [obtain_eq, refused]⟩

end Loading

def hastyFile : Bytes :=
  Text.utf8 "ROBOT_HOST=nao\nROBOT_PORT=1\nROBOT_PORT=2\nTTS_SERVICE\nTTS_SERVICE=other\n"

def labEnvironment : Environment := Environment.set ⟨[]⟩ "ROBOT_HOST" "lab"

theorem hasty_file_fills_lab : Settable labEnvironment (entries labEnvironment hastyFile) ∧
    Config.obtain labEnvironment (some hastyFile) =
      .returned (.ok { Config.default with robotHost := "lab", robotPort := 1 }) := by
  have held : entries labEnvironment hastyFile =
      [("ROBOT_HOST", "nao"), ("ROBOT_PORT", "1"), ("ROBOT_PORT", "2")] := by decide +kernel
  have settable : Settable labEnvironment (entries labEnvironment hastyFile) :=
    settable_of_clean (by rw [held]; decide)
  have filled := file_fills_environment labEnvironment hastyFile
  refine ⟨settable, (filled.same settable _ (extended_fills _ _)).trans ?_⟩
  rw [held]
  rfl

def zeroFile : Bytes := Text.utf8 "NOTE=a\x00b"

theorem zero_stops_loading : ¬ (∀ whole, Fills ⟨[]⟩ (entries ⟨[]⟩ zeroFile) whole →
      Config.obtain ⟨[]⟩ (some zeroFile) = Config.obtain whole none) ∧
    Config.obtain ⟨[]⟩ (some zeroFile) = .panicked (.text (unsettableText "NOTE" "a\x00b")) ∧
    Config.obtain (Environment.set ⟨[]⟩ "NOTE" "a\x00b") none =
      .returned (.ok Config.default) := by
  have held : entries ⟨[]⟩ zeroFile = [("NOTE", "a\x00b")] := by decide +kernel
  have stopped : Config.obtain ⟨[]⟩ (some zeroFile) =
      .panicked (.text (unsettableText "NOTE" "a\x00b")) := by
    rw [obtain_eq, held]
    rfl
  refine ⟨fun same => ?_, stopped, rfl⟩
  have loaded := same _ (extended_fills _ _)
  rw [stopped] at loaded
  cases loaded

end CommandGateway
