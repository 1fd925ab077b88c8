import CommandGateway.Api.Payload
import CommandGateway.Proofs.Batch
import CommandGateway.Proofs.Json.RoundTrip
import CommandGateway.Proofs.Json.Shape

/- A body as the interface documents it, and the same body as requests are checked. A documented
   batch that is written out is accepted as the batch of the same commands, as long as its arguments
   can be written so that they read back. -/
namespace CommandGateway.Api

open Json

def CommandPayload.command (c : CommandPayload) : Command :=
  ⟨if c.kind = "say_something" then .known .saySomething else .unknown (some c.kind), c.args⟩

section Documented
variable {b rest : Bytes} {v : Value} {fuel : Bytes} {depth : Nat}

theorem arguments_tidy
    (read : argumentsShape.reader (readNested fuel) depth b = .ok (v, rest)) :
    ∃ args, v = .array args ∧ ∀ w ∈ args, Tidy w := by
  simp only [argumentsShape, Shape.reader] at read
  exact read_list (fun _ _ _ _ held => value_tidy (fun _ _ => nested_tidy) held) read

theorem command_tidy
    (read : CommandPayload.shape.reader (readNested fuel) depth b = .ok (v, rest)) :
    ∀ w ∈ (CommandPayload.ofJson v).args, Tidy w := by
  simp only [CommandPayload.shape, Shape.reader, fieldReaders] at read
  obtain ⟨ms, rfl, fields⟩ := read_record read
  simp only [CommandPayload.ofJson]
  cases given : lookup "args" ms with
  | none => simp [itemsOf]
  | some args =>
    obtain ⟨field, member, named, origin⟩ := fields _ (mem_of_lookup given)
    simp only [List.mem_cons, List.not_mem_nil, or_false] at member
    rcases member with rfl | rfl
    · simp at named
    · rcases origin with fallback | ⟨_, _, _, held⟩
      · cases fallback
        simp [itemsOf]
      · obtain ⟨items, rfl, all⟩ := arguments_tidy held
        exact all

theorem documented_tidy {p : BatchPayload} (documented : BatchPayload.read b = .ok p) :
    ∀ c ∈ p.commands, ∀ v ∈ c.args, Tidy v := by
  simp only [BatchPayload.read] at documented
  split at documented
  · cases documented
  · rename_i ms held
    cases documented
    obtain ⟨rest, value, -⟩ := whole_read held
    simp only [BatchPayload.shape, Shape.reader, fieldReaders] at value
    obtain ⟨_, ⟨⟩, fields⟩ := read_record value
    cases given : lookup "commands" ms with
    | none => simp [itemsOf]
    | some listed =>
      obtain ⟨field, member, named, origin⟩ := fields _ (mem_of_lookup given)
      obtain rfl := List.mem_singleton.mp member
      rcases origin with fallback | ⟨_, _, _, held⟩
      · cases fallback
      · obtain ⟨items, rfl, all⟩ := read_list (fun _ _ _ _ => command_tidy) held
        simpa [itemsOf] using all
  · cases documented
    simp

end Documented

section Written
variable {c : CommandPayload} {p : BatchPayload}

def CommandPayload.arranged (c : CommandPayload) : Value :=
  .object [("args", .array c.args), ("type", .string c.kind)]

theorem command_sorted (tidy : ∀ v ∈ c.args, Tidy v) : c.toJson.sorted = c.arranged := by
  have same : sortedItems c.args = c.args := by
    have whole := tidy_sorted (.array c.args tidy)
    rw [Value.sorted] at whole
    injection whole
  rw [CommandPayload.toJson, Value.sorted, sortedMembers, sortedMembers, sortedMembers,
    Value.sorted, Value.sorted, same]
  have before : "args" < "type" := by decide
  simp [sortMembers, Json.insert, before, CommandPayload.arranged]

theorem batch_sorted (tidy : ∀ c ∈ p.commands, ∀ v ∈ c.args, Tidy v) :
    p.toJson.sorted = .object [("commands", .array (p.commands.map CommandPayload.arranged))] := by
  have same : (p.commands.map CommandPayload.toJson).map Value.sorted =
      p.commands.map CommandPayload.arranged := by
    rw [List.map_map]
    exact List.map_congr_left fun c member => command_sorted (tidy c member)
  rw [BatchPayload.toJson, Value.sorted, sortedMembers, sortedMembers, Value.sorted,
    sorted_items_eq, same]
  rfl

theorem command_writable {depth : Nat} (args : ∀ v ∈ c.args, Writable depth v) :
    Writable (depth + 2) c.toJson := by
  refine .object (by simp [embedKey]) ?_
  simp only [List.forall_mem_cons, List.not_mem_nil, false_implies, implies_true, and_true]
  exact ⟨.scalar (.string _) (by simp [IsFloat]), .array args⟩

theorem batch_writable {depth : Nat} (args : ∀ c ∈ p.commands, ∀ v ∈ c.args, Writable depth v) :
    Writable (depth + 4) p.toJson := by
  refine .object (by simp [embedKey]) (List.forall_mem_singleton.mpr (.array ?_))
  exact List.forall_mem_map.mpr fun c member => command_writable (args c member)

theorem arranged_describes (c : CommandPayload) : Describes c.arranged c.command := by
  refine .object _ _ (.list c.args rfl) ?_
  have tag : lookup "type" [("args", Value.array c.args), ("type", .string c.kind)] =
      some (.string c.kind) := rfl
  simp only [CommandPayload.command]
  split
  · rename_i own
    rw [own] at tag ⊢
    exact .known tag
  · rename_i other
    exact .text c.kind tag other

theorem arranged_well_formed (clear : ∀ v ∈ c.args, ¬ Embeds v) : WellFormed c.arranged := by
  refine ⟨_, rfl, Or.inr (Or.inr ⟨c.args, rfl⟩), ?_⟩
  simp only [Legible, List.forall_mem_cons, List.not_mem_nil, false_implies, implies_true, and_true]
  constructor
  · rintro v ⟨⟩
    exact scalar_not_embeds (.string _)
  · rintro v ⟨⟩
    rw [embeds_array_iff]
    rintro ⟨v, member, inner⟩
    exact clear v member inner

end Written

/-- A batch that the interface documents, and whose arguments hold no fraction, is written as a
    text that is accepted as the batch of the same commands in the same order. Without commands it
    is refused for having none. No argument may hold an object that shows the key of an embedded
    value first, nor nest deeper than the text of a batch allows. -/
theorem documented_batch_accepted {b : Bytes} {p : BatchPayload}
    (documented : BatchPayload.read b = .ok p)
    (exact : ∀ c ∈ p.commands, ∀ v ∈ c.args, ¬ Holds IsFloat v)
    (plain : ∀ c ∈ p.commands, ∀ v ∈ c.args, ¬ Embeds v)
    (shallow : ∀ c ∈ p.commands, ∀ v ∈ c.args, v.depth + 4 ≤ deepest) :
    (p.commands ≠ [] → ∃ batch, Batch.ofBytes (Text.utf8 p.toJson.render) = .ok batch ∧
      batch.commands = p.commands.map CommandPayload.command) ∧
    (p.commands = [] → Batch.ofBytes (Text.utf8 p.toJson.render) = .error .emptyCommands) := by
  have tidy := documented_tidy documented
  have writable : Writable (123 + 4) p.toJson := batch_writable
    fun c member v arg => tidy_writable (tidy c member v arg) (exact c member v arg)
      (plain c member v arg) (Nat.le_of_add_le_add_right (shallow c member v arg))
  have held := (render_read writable).trans (congrArg Except.ok (batch_sorted tidy))
  have lists : Lists (Text.utf8 p.toJson.render) (p.commands.map CommandPayload.arranged) :=
    ⟨_, held, rfl⟩
  constructor
  · intro some
    have nonempty : p.commands.map CommandPayload.command ≠ [] := by simpa using some
    have formed : ∀ item ∈ p.commands.map CommandPayload.arranged, WellFormed item :=
      List.forall_mem_map.mpr fun c member => arranged_well_formed (plain c member)
    have each : List.Forall₂ Describes (p.commands.map CommandPayload.arranged)
        (p.commands.map CommandPayload.command) := by
      rw [List.forall₂_map_left_iff, List.forall₂_map_right_iff, List.forall₂_same]
      exact fun c _ => arranged_describes c
    exact ⟨⟨_, nonempty⟩, verdict_given (.accepted _ _ lists formed each), rfl⟩
  · intro none
    rw [none] at lists
    exact verdict_given (.empty lists)

def greeting : BatchPayload :=
  ⟨[⟨"say_something", [.string "caf\u00e9 \"\\\n", .int 18446744073709551615, .array [.null]]⟩,
    ⟨"wave", []⟩]⟩

def greetingText : Bytes :=
  Text.utf8 ("\x7b\"commands\": [\x7b\"args\": [\"caf\\u00e9 \\\"\\\\\\n\", " ++
    "18446744073709551615, [null]], \"type\": \"say_something\"\x7d, " ++
    "\x7b\"type\": \"wave\"\x7d]\x7d")

theorem greeting_accepted :
    BatchPayload.read greetingText = .ok greeting ∧
    (∀ c ∈ greeting.commands, ∀ v ∈ c.args, ¬ Holds IsFloat v ∧ ¬ Embeds v ∧
      v.depth + 4 ≤ deepest) ∧
    ∃ batch, Batch.ofBytes (Text.utf8 greeting.toJson.render) = .ok batch ∧
      batch.commands = greeting.commands.map CommandPayload.command := by
  have documented : BatchPayload.read greetingText = .ok greeting := rfl
  have fits : ∀ c ∈ greeting.commands, ∀ v ∈ c.args, ¬ Holds IsFloat v ∧ ¬ Embeds v ∧
      v.depth + 4 ≤ deepest := by
    have plain : ∀ v, Scalar v → ¬ IsFloat v → ¬ Holds IsFloat v ∧ ¬ Embeds v :=
      fun v scalar exact => ⟨(holds_scalar_iff scalar).not.mpr exact, scalar_not_embeds scalar⟩
    have null := plain .null .null (by simp [IsFloat])
    have text := fun s => plain (.string s) (.string s) (by simp [IsFloat])
    have large := plain (.int 18446744073709551615) (.int _ (by decide) (by decide))
      (by simp [IsFloat])
    have list : ¬ Holds IsFloat (.array [.null]) ∧ ¬ Embeds (.array [.null]) := by
      rw [embeds_array_iff, holds_array_iff (by simp [IsFloat])]
      simpa using null
    simp only [greeting, List.forall_mem_cons, List.not_mem_nil, false_implies, implies_true,
      and_true]
    exact ⟨⟨(text _).1, (text _).2, by decide⟩, ⟨large.1, large.2, by decide⟩,
      ⟨list.1, list.2, by decide⟩⟩
  refine ⟨documented, fits, ?_⟩
  exact (documented_batch_accepted documented (fun c member v arg => (fits c member v arg).1)
    (fun c member v arg => (fits c member v arg).2.1)
    (fun c member v arg => (fits c member v arg).2.2)).1 (List.cons_ne_nil _ _)

/-- The key of an embedded value stands behind another in the text that is read, and in front of it
    in the text that is written, which is then no longer JSON. -/
def keyedBatch : BatchPayload :=
  ⟨[⟨"say_something", [.object [(embedKey, .string "2"), ("a", .int 1)]]⟩]⟩

def keyedText : Bytes :=
  Text.utf8 ("\x7b\"commands\":[\x7b\"type\":\"say_something\",\"args\":[\x7b\"a\":1," ++
    "\"$serde_json::private::RawValue\":\"2\"\x7d]\x7d]\x7d")

theorem keyed_batch_refused :
    BatchPayload.read keyedText = .ok keyedBatch ∧ keyedBatch.commands ≠ [] ∧
    (∀ c ∈ keyedBatch.commands, ∀ v ∈ c.args, ¬ Holds IsFloat v) ∧
    ∃ reason,
      Batch.ofBytes (Text.utf8 keyedBatch.toJson.render) = .error (.invalidJson reason) := by
  refine ⟨rfl, List.cons_ne_nil _ _, ?_, _, rfl⟩
  simp only [keyedBatch, List.forall_mem_cons, List.not_mem_nil, false_implies, implies_true,
    and_true]
  rw [holds_object_iff (by simp [IsFloat])]
  simp only [List.mem_cons, List.not_mem_nil, or_false, exists_eq_or_imp, exists_eq_left, not_or]
  rw [holds_scalar_iff (.string _), holds_scalar_iff (.int _ (by decide) (by decide))]
  simp [IsFloat]

end CommandGateway.Api
