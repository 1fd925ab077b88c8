import CommandGateway.Batch
import CommandGateway.Proofs.Json.Embedded
import Mathlib.Data.List.Forall2

/- Which bodies hold a batch, and which batch. A body is checked from the outside inwards and its
   items from the first to the last, so the first thing wrong decides the verdict. What an item may
   say besides its tag and its arguments does not matter. -/
namespace CommandGateway

open Json

/-- The arguments of an item: a list, or none when they are absent or `null`. -/
inductive ArgumentsFrom (members : List Member) : List Value → Prop
  | absent (missing : lookup "args" members = none) : ArgumentsFrom members []
  | null (null : lookup "args" members = some .null) : ArgumentsFrom members []
  | list (items : List Value) (listed : lookup "args" members = some (.array items)) :
      ArgumentsFrom members items

/-- The tag of an item. One that is no text is kept as its JSON text. -/
inductive KindFrom (members : List Member) : CommandType → Prop
  | absent (missing : lookup "type" members = none) : KindFrom members (.unknown none)
  | null (null : lookup "type" members = some .null) : KindFrom members (.unknown none)
  | known (named : lookup "type" members = some (.string "say_something")) :
      KindFrom members (.known .saySomething)
  | text (name : String) (named : lookup "type" members = some (.string name))
      (other : name ≠ "say_something") : KindFrom members (.unknown (some name))
  | shown (v : Value) (tagged : lookup "type" members = some v) (given : v ≠ .null)
      (textless : ∀ name, v ≠ .string name) : KindFrom members (.unknown (some v.render))

inductive Describes : Value → Command → Prop
  | object (members : List Member) (command : Command)
      (arguments : ArgumentsFrom members command.args) (kind : KindFrom members command.kind) :
      Describes (.object members) command

def AdmitsArguments (members : List Member) : Prop :=
  lookup "args" members = none ∨ lookup "args" members = some .null ∨
    ∃ items, lookup "args" members = some (.array items)

/-- The tag and the arguments hold no object that shows the key of an embedded value first. -/
def Legible (members : List Member) : Prop :=
  ∀ key ∈ ["type", "args"], ∀ v, lookup key members = some v → ¬ Embeds v

def WellFormed (item : Value) : Prop :=
  ∃ members, item = .object members ∧ AdmitsArguments members ∧ Legible members

/-- A body whose commands are the items of a list. -/
def Lists (body : Bytes) (items : List Value) : Prop :=
  ∃ members, read body = .ok (.object members) ∧
    lookup "commands" members = some (.array items)

/-- What a body comes to, the first thing wrong with it deciding. -/
inductive Verdict (body : Bytes) : Except BatchError Batch → Prop
  | invalidJson (fault : Fault) (broken : read body = .error fault) :
      Verdict body (.error (.invalidJson (fault.message body)))
  | notAnObject (v : Value) (held : read body = .ok v) (other : ∀ members, v ≠ .object members) :
      Verdict body (.error .notAnObject)
  | missing (members : List Member) (held : read body = .ok (.object members))
      (lacking : lookup "commands" members = none ∨ lookup "commands" members = some .null) :
      Verdict body (.error .missingCommands)
  | notAList (members : List Member) (v : Value) (held : read body = .ok (.object members))
      (found : lookup "commands" members = some v) (given : v ≠ .null)
      (other : ∀ items, v ≠ .array items) : Verdict body (.error .commandsNotAList)
  | malformed (before : List Value) (item : Value) (after : List Value) (reason : String)
      (lists : Lists body (before ++ item :: after)) (fine : ∀ other ∈ before, WellFormed other)
      (bad : ¬ WellFormed item) (told : Command.ofJson item = .error reason) :
      Verdict body (.error (.malformedCommand before.length reason))
  | empty (lists : Lists body []) : Verdict body (.error .emptyCommands)
  | accepted (items : List Value) (batch : Batch) (lists : Lists body items)
      (clear : ∀ item ∈ items, WellFormed item)
      (each : List.Forall₂ Describes items batch.commands) : Verdict body (.ok batch)

section Items
variable {members : List Member} {item : Value} {command : Command}

theorem kind_from_json {v : Value} (tagged : lookup "type" members = some v) :
    KindFrom members (CommandType.ofJson v) := by
  match v with
  | .null => exact .null tagged
  | .string name =>
    by_cases own : name = "say_something"
    · subst own
      exact .known tagged
    · have foreign : CommandKind.ofWire? name = none := by
        rw [Option.eq_none_iff_forall_ne_some]
        intro kind found
        cases kind
        exact own (CommandKind.of_wire_eq_some_iff.mp found).symm
      simp only [CommandType.ofJson, foreign]
      exact .text name tagged own
  | .bool b => exact .shown _ tagged nofun nofun
  | .int n => exact .shown _ tagged nofun nofun
  | .float bits => exact .shown _ tagged nofun nofun
  | .array items => exact .shown _ tagged nofun nofun
  | .object ms => exact .shown _ tagged nofun nofun

theorem kind_from_unique {kind other : CommandType} (first : KindFrom members kind)
    (second : KindFrom members other) : kind = other := by
  cases first <;> cases second <;> grind

theorem arguments_from_unique {args others : List Value} (first : ArgumentsFrom members args)
    (second : ArgumentsFrom members others) : args = others := by
  cases first <;> cases second <;> simp_all

theorem kind_of_iff (tidy : ∀ v, lookup "type" members = some v → Tidy v) (kind : CommandType) :
    kindOf members = .ok kind ↔
      KindFrom members kind ∧ ∀ v, lookup "type" members = some v → ¬ Embeds v := by
  cases tagged : lookup "type" members with
  | none =>
    have absent : KindFrom members (.unknown none) := .absent tagged
    simp only [kindOf, tagged, Except.ok.injEq, reduceCtorEq, false_implies, implies_true, and_true]
    exact ⟨fun same => same ▸ absent, kind_from_unique absent⟩
  | some v =>
    have resolved := fun w => resolve_iff (w := w) (tidy v tagged)
    have tag := kind_from_json tagged
    simp only [kindOf, tagged, Option.some.injEq, forall_eq']
    constructor
    · intro read
      split at read
      · cases read
      · rename_i w found
        obtain ⟨clear, rfl⟩ := (resolved w).mp found
        cases read
        exact ⟨tag, clear⟩
    · rintro ⟨kind, clear⟩
      simp only [(resolved v).mpr ⟨clear, rfl⟩, kind_from_unique tag kind]

theorem arguments_of_iff (tidy : ∀ v, lookup "args" members = some v → Tidy v)
    (args : List Value) : argumentsOf members = .ok args ↔
      ArgumentsFrom members args ∧ ∀ v, lookup "args" members = some v → ¬ Embeds v := by
  cases given : lookup "args" members with
  | none =>
    have absent : ArgumentsFrom members [] := .absent given
    simp only [argumentsOf, given, Except.ok.injEq, reduceCtorEq, false_implies, implies_true,
      and_true]
    exact ⟨fun same => same ▸ absent, arguments_from_unique absent⟩
  | some v =>
    simp only [argumentsOf, given, Option.some.injEq, forall_eq']
    match v with
    | .null =>
      have null : ArgumentsFrom members [] := .null given
      have clear : ¬ Embeds .null := scalar_not_embeds .null
      simp only [Except.ok.injEq, clear, not_false_eq_true, and_true]
      exact ⟨fun same => same ▸ null, arguments_from_unique null⟩
    | .array items =>
      have list : ArgumentsFrom members items := .list items given
      have each : ∀ v ∈ items, ∀ w, v.resolve = .ok w ↔ ¬ Embeds v ∧ w = v := by
        cases tidy _ given with
        | scalar scalar => cases scalar
        | array _ all => exact fun v member w => resolve_iff (all v member)
      rw [resolve_items_iff each, embeds_array_iff]
      push Not
      exact ⟨fun ⟨clear, same⟩ => ⟨same ▸ list, clear⟩,
        fun ⟨same, clear⟩ => ⟨clear, arguments_from_unique same list⟩⟩
    | .bool _ | .int _ | .float _ | .string _ | .object _ =>
      simp only [reduceCtorEq, false_iff, not_and]
      intro arguments
      cases arguments <;> simp_all

theorem command_of_iff (tidy : ∀ m ∈ members, Tidy m.2) :
    Command.ofJson (.object members) = .ok command ↔
      Describes (.object members) command ∧ Legible members := by
  have arguments := arguments_of_iff fun v found => tidy _ (mem_of_lookup found)
  have kinds := kind_of_iff fun v found => tidy _ (mem_of_lookup found)
  obtain ⟨kind, args⟩ := command
  simp only [Command.ofJson, Legible, List.forall_mem_cons, List.not_mem_nil, false_implies,
    implies_true, and_true]
  constructor
  · intro read
    split at read
    · cases read
    · cases read
    · rename_i args' kind' given tagged
      cases read
      obtain ⟨from_, clear⟩ := (arguments _).mp given
      obtain ⟨tag, plain⟩ := (kinds _).mp tagged
      exact ⟨.object members _ from_ tag, plain, clear⟩
  · rintro ⟨⟨_, _, from_, tag⟩, plain, clear⟩
    have given := (arguments _).mpr ⟨from_, clear⟩
    have tagged := (kinds _).mpr ⟨tag, plain⟩
    simp only [given, tagged]

theorem describes_iff :
    (∃ command, Describes (.object members) command) ↔ AdmitsArguments members := by
  constructor
  · rintro ⟨command, _, _, arguments, kind⟩
    generalize command.args = args at arguments
    cases arguments with
    | absent missing => exact Or.inl missing
    | null null => exact Or.inr (Or.inl null)
    | list items listed => exact Or.inr (Or.inr ⟨_, listed⟩)
  · intro admits
    have kind : ∃ kind, KindFrom members kind := by
      cases tagged : lookup "type" members with
      | none => exact ⟨_, .absent tagged⟩
      | some v => exact ⟨_, kind_from_json tagged⟩
    obtain ⟨kind, tag⟩ := kind
    rcases admits with missing | null | ⟨items, listed⟩
    · exact ⟨⟨kind, []⟩, .object _ _ (.absent missing) tag⟩
    · exact ⟨⟨kind, []⟩, .object _ _ (.null null) tag⟩
    · exact ⟨⟨kind, items⟩, .object _ _ (.list items listed) tag⟩

theorem command_read_iff (tidy : Tidy item) :
    Command.ofJson item = .ok command ↔ Describes item command ∧ WellFormed item := by
  match item with
  | .object members =>
    have all : ∀ m ∈ members, Tidy m.2 := by
      cases tidy with
      | scalar scalar => cases scalar
      | object _ _ _ all => exact all
    rw [command_of_iff all]
    constructor
    · rintro ⟨describes, legible⟩
      exact ⟨describes, members, rfl, describes_iff.mp ⟨command, describes⟩, legible⟩
    · rintro ⟨describes, _, ⟨⟩, -, legible⟩
      exact ⟨describes, legible⟩
  | .null | .bool _ | .int _ | .float _ | .string _ | .array _ =>
    simp only [Command.ofJson, reduceCtorEq, false_iff, not_and]
    rintro ⟨⟩

theorem well_formed_iff (tidy : Tidy item) :
    WellFormed item ↔ ∃ command, Command.ofJson item = .ok command := by
  simp only [command_read_iff tidy]
  constructor
  · rintro ⟨members, rfl, admits, legible⟩
    obtain ⟨command, describes⟩ := describes_iff.mpr admits
    exact ⟨command, describes, members, rfl, admits, legible⟩
  · rintro ⟨command, -, formed⟩
    exact formed

end Items

section Lists
variable {body : Bytes} {items : List Value}

theorem lists_tidy (lists : Lists body items) : ∀ item ∈ items, Tidy item := by
  obtain ⟨members, held, found⟩ := lists
  cases read_tidy held with
  | scalar scalar => cases scalar
  | object _ _ _ all =>
    cases all _ (mem_of_lookup found) with
    | scalar scalar => cases scalar
    | array _ all => exact all

inductive CommandsFrom (index : Nat) : List Value → Except BatchError (List Command) → Prop
  | read (items : List Value) (commands : List Command)
      (each : List.Forall₂ (fun item command => Command.ofJson item = .ok command) items
        commands) : CommandsFrom index items (.ok commands)
  | stopped (before : List Value) (item : Value) (after : List Value) (reason : String)
      (fine : ∀ other ∈ before, ∃ command, Command.ofJson other = .ok command)
      (told : Command.ofJson item = .error reason) :
      CommandsFrom index (before ++ item :: after)
        (.error (.malformedCommand (index + before.length) reason))

theorem commands_from_cases (index : Nat) (items : List Value) :
    CommandsFrom index items (commandsFrom index items) := by
  induction items generalizing index with
  | nil => exact .read [] [] .nil
  | cons item rest ih =>
    cases first : Command.ofJson item with
    | error reason =>
      simp only [commandsFrom, first]
      exact .stopped [] item rest reason (by simp) first
    | ok command =>
      simp only [commandsFrom, first]
      have later := ih (index + 1)
      generalize commandsFrom (index + 1) rest = result at later
      cases later with
      | read _ commands each => exact .read _ _ (.cons first each)
      | stopped before bad after reason fine told =>
        have longer : index + 1 + before.length = index + (item :: before).length := by
          simp only [List.length_cons]
          omega
        rw [longer]
        exact .stopped (item :: before) bad after reason
          (List.forall_mem_cons.mpr ⟨⟨command, first⟩, fine⟩) told

theorem commands_read {commands : List Command} (index : Nat)
    (each : List.Forall₂ (fun item command => Command.ofJson item = .ok command) items commands) :
    commandsFrom index items = .ok commands := by
  induction each generalizing index with
  | nil => rfl
  | cons first _ ih => simp only [commandsFrom, first, ih (index + 1)]

theorem commands_stop {before after : List Value} {item : Value} {reason : String} (index : Nat)
    (fine : ∀ other ∈ before, ∃ command, Command.ofJson other = .ok command)
    (told : Command.ofJson item = .error reason) :
    commandsFrom index (before ++ item :: after) =
      .error (.malformedCommand (index + before.length) reason) := by
  induction before generalizing index with
  | nil => simp only [List.nil_append, commandsFrom, told, List.length_nil, Nat.add_zero]
  | cons first rest ih =>
    obtain ⟨⟨command, read⟩, fine⟩ := List.forall_mem_cons.mp fine
    simp only [List.cons_append, commandsFrom, read, ih (index + 1) fine, List.length_cons]
    congr 2
    omega

theorem lists_of_bytes (lists : Lists body items) :
    Batch.ofBytes body =
      match commandsFrom 0 items with
      | .error e => .error e
      | .ok commands => Batch.ofCommands commands := by
  obtain ⟨members, held, found⟩ := lists
  cases read : commandsFrom 0 items <;>
    simp only [Batch.ofBytes, held, Batch.ofJson, found, read]

theorem forall_describes {commands : List Command} (tidy : ∀ item ∈ items, Tidy item) :
    List.Forall₂ (fun item command => Command.ofJson item = .ok command) items commands ↔
      List.Forall₂ Describes items commands ∧ ∀ item ∈ items, WellFormed item := by
  induction items generalizing commands with
  | nil => simp
  | cons item rest ih =>
    obtain ⟨first, others⟩ := List.forall_mem_cons.mp tidy
    cases commands with
    | nil => simp
    | cons command commands =>
      rw [List.forall₂_cons, List.forall₂_cons, List.forall_mem_cons, command_read_iff first,
        ih others]
      tauto

theorem lists_verdict (lists : Lists body items) : Verdict body (Batch.ofBytes body) := by
  have tidy := lists_tidy lists
  rw [lists_of_bytes lists]
  have cases := commands_from_cases 0 items
  generalize commandsFrom 0 items = result at cases
  cases cases with
  | read items commands each =>
    obtain ⟨describes, clear⟩ := (forall_describes tidy).mp each
    simp only [Batch.ofCommands]
    split
    · rename_i empty
      subst empty
      cases describes
      exact .empty lists
    · exact .accepted items _ lists clear describes
  | stopped before item after reason fine told =>
    have bad : ¬ WellFormed item := by
      rw [well_formed_iff (tidy item (by simp)), told]
      exact nofun
    have fine : ∀ other ∈ before, WellFormed other := fun other member =>
      (well_formed_iff (tidy other (List.mem_append_left _ member))).mpr (fine other member)
    simp only [Nat.zero_add]
    exact .malformed before item after reason lists fine bad told

theorem verdict_reached (body : Bytes) : Verdict body (Batch.ofBytes body) := by
  cases held : read body with
  | error fault =>
    simp only [Batch.ofBytes, held]
    exact .invalidJson fault held
  | ok v =>
    match v with
    | .object members =>
      cases found : lookup "commands" members with
      | none =>
        simp only [Batch.ofBytes, held, Batch.ofJson, found]
        exact .missing members held (Or.inl found)
      | some v =>
        match v with
        | .null =>
          simp only [Batch.ofBytes, held, Batch.ofJson, found]
          exact .missing members held (Or.inr found)
        | .array items => exact lists_verdict ⟨members, held, found⟩
        | .bool _ | .int _ | .float _ | .string _ | .object _ =>
          simp only [Batch.ofBytes, held, Batch.ofJson, found]
          exact .notAList members _ held found nofun nofun
    | .null | .bool _ | .int _ | .float _ | .string _ | .array _ =>
      simp only [Batch.ofBytes, held, Batch.ofJson]
      exact .notAnObject _ held nofun

theorem verdict_given {result : Except BatchError Batch} (verdict : Verdict body result) :
    Batch.ofBytes body = result := by
  cases verdict with
  | invalidJson fault broken => simp only [Batch.ofBytes, broken]
  | notAnObject v held other =>
    simp only [Batch.ofBytes, held]
    match v with
    | .object members => exact absurd rfl (other members)
    | .null | .bool _ | .int _ | .float _ | .string _ | .array _ => rfl
  | missing members held lacking =>
    rcases lacking with absent | null
    · simp only [Batch.ofBytes, held, Batch.ofJson, absent]
    · simp only [Batch.ofBytes, held, Batch.ofJson, null]
  | notAList members v held found given other =>
    simp only [Batch.ofBytes, held, Batch.ofJson, found]
  | malformed before item after reason lists fine bad told =>
    have tidy := lists_tidy lists
    have read : ∀ other ∈ before, ∃ command, Command.ofJson other = .ok command :=
      fun other member =>
        (well_formed_iff (tidy other (List.mem_append_left _ member))).mp (fine other member)
    rw [lists_of_bytes lists, commands_stop 0 read told, Nat.zero_add]
  | empty lists =>
    rw [lists_of_bytes lists]
    rfl
  | accepted items batch lists clear each =>
    have read := (forall_describes (lists_tidy lists)).mpr ⟨each, clear⟩
    rw [lists_of_bytes lists, commands_read 0 read]
    exact dif_neg batch.nonempty

theorem described (clear : ∀ item ∈ items, WellFormed item) :
    ∃ commands, List.Forall₂ Describes items commands := by
  induction items with
  | nil => exact ⟨[], .nil⟩
  | cons item rest ih =>
    obtain ⟨⟨members, rfl, admits, -⟩, others⟩ := List.forall_mem_cons.mp clear
    obtain ⟨command, describes⟩ := describes_iff.mpr admits
    obtain ⟨commands, each⟩ := ih others
    exact ⟨command :: commands, .cons describes each⟩

theorem verdict_iff {result : Except BatchError Batch} :
    Batch.ofBytes body = result ↔ Verdict body result :=
  ⟨fun same => same ▸ verdict_reached body, verdict_given⟩

end Lists

/-- A body holds a batch exactly when it lists well-formed items, at least one, and the batch has
    the commands that they describe. Otherwise the first thing wrong decides. Of the members that an
    object of the text writes with one key, the last counts. -/
theorem body_decides_batch (body : Bytes) :
    (∀ result, Batch.ofBytes body = result ↔ Verdict body result) ∧
      ((∃ batch, Batch.ofBytes body = .ok batch) ↔
        ∃ items, Lists body items ∧ items ≠ [] ∧ ∀ item ∈ items, WellFormed item) ∧
      ∀ members, read body = .ok (.object members) →
        ∃ written, ObjectText body written ∧
          ∀ key, lookup key members = lookup key written.reverse := by
  refine ⟨fun result => verdict_iff, ⟨?_, ?_⟩, fun members held => last_member_counts held⟩
  · rintro ⟨batch, read⟩
    cases verdict_iff.mp read with
    | accepted items _ lists clear each =>
      refine ⟨items, lists, ?_, clear⟩
      rintro rfl
      exact batch.nonempty (List.forall₂_nil_left_iff.mp each)
  · rintro ⟨items, lists, some, clear⟩
    obtain ⟨commands, each⟩ := described clear
    have nonempty : commands ≠ [] := by
      rintro rfl
      exact some (List.forall₂_nil_right_iff.mp each)
    exact ⟨⟨commands, nonempty⟩, verdict_iff.mpr (.accepted items _ lists clear each)⟩

/-- A tag that is an object with the key of an embedded value. Reading puts that key first, and so
    the tag is taken for an embedded value and its command refused. -/
def keyedTag : Bytes :=
  Text.utf8 ("\x7b\"commands\":[\x7b\"type\":\x7b\"a\":1," ++
    "\"$serde_json::private::RawValue\":\"2\"\x7d\x7d]\x7d")

def keyedValue : Value := .object [(embedKey, .string "2"), ("a", .int 1)]

theorem keyed_tag_refused :
    Lists keyedTag [.object [("type", keyedValue)]] ∧
    Describes (.object [("type", keyedValue)])
      ⟨.unknown (some "\x7b\"$serde_json::private::RawValue\":\"2\",\"a\":1\x7d"), []⟩ ∧
    Batch.ofBytes keyedTag =
      .error (.malformedCommand 0 "invalid length 2, expected fewer elements in map") := by
  have tag : lookup "type" [("type", keyedValue)] = some keyedValue := rfl
  exact ⟨⟨_, rfl, rfl⟩, .object _ _ (.absent rfl) (kind_from_json tag), rfl⟩

end CommandGateway
