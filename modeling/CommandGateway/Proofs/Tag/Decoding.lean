import CommandGateway.Batch
import CommandGateway.Command.Text
import CommandGateway.Proofs.Json.StringText
import CommandGateway.Proofs.Tag

/- What a JSON document says as a tag. A kind is named by the string of its name, and besides only
   by an object that embeds a text of that string. A tag that has been decoded is recovered from
   what is written for it, which is also what is shown. -/
namespace CommandGateway

open Json

/-- The tag is decoded again from what is written for it, as a value and as a text, and what is
    shown for it is the string that is written. -/
structure Recovered (t : CommandType) : Prop where
  value : CommandType.decode t.toJson = .ok t
  text : CommandType.read (Text.utf8 t.toJson.render) = .ok t
  shown : t.toJson = .string t.display ∨ t.toJson = .null ∧ t.display = "<missing>"

/-- What a tag tells of the value that it was taken from: whether it is the name of the kind, and
    else its JSON text, unless it is a string or absent. -/
structure TagTells (v : Value) (t : CommandType) : Prop where
  named : t = .known .saySomething ↔ v = .string "say_something"
  kept : v ≠ .null → (∀ s, v ≠ .string s) →
    t = .unknown (some v.render) ∧ v.render ≠ "say_something"

structure TagOfValue (v : Value) : Prop where
  item : ∀ members, lookup "type" members = some v → kindOf members = CommandType.decode v
  told : ¬ Embeds v → ∃ t, CommandType.decode v = .ok t ∧ TagTells v t
  known : CommandType.decode v = .ok (.known .saySomething) ↔
    v = .string "say_something" ∨
      ∃ inner, v = .object [(embedKey, .string inner)] ∧
        StringText "say_something" (Text.utf8 inner)
  recovered : ∀ t, CommandType.decode v = .ok t → Recovered t

structure TagOfText (b : Bytes) : Prop where
  told : ∀ v, Json.read b = .ok v → ∃ t, CommandType.read b = .ok t ∧ TagTells v t
  known : CommandType.read b = .ok (.known .saySomething) ↔ StringText "say_something" b
  recovered : ∀ t, CommandType.read b = .ok t → Recovered t

section Decoded
variable {v : Value} {b : Bytes} {t : CommandType} {members : List Member}

theorem decode_iff :
    CommandType.decode v = .ok t ↔ ∃ w, v.resolve = .ok w ∧ CommandType.ofJson w = t := by
  unfold CommandType.decode
  cases v.resolve <;> simp

theorem read_tag_iff :
    CommandType.read b = .ok t ↔ ∃ w, Json.read b = .ok w ∧ CommandType.ofJson w = t := by
  unfold CommandType.read
  cases Json.read b <;> simp

theorem kind_of_tagged (tagged : lookup "type" members = some v) :
    kindOf members = CommandType.decode v := by
  rw [kindOf, tagged]
  rfl

theorem decode_clear (clear : ¬ Embeds v) : CommandType.decode v = .ok (CommandType.ofJson v) :=
  decode_iff.mpr ⟨v, resolve_clear v clear, rfl⟩

theorem decode_known_iff (kind : CommandKind) :
    CommandType.decode v = .ok (.known kind) ↔ v.resolve = .ok (.string kind.wireName) := by
  simp only [decode_iff, of_json_known_iff, exists_eq_right]

theorem read_known_iff (kind : CommandKind) :
    CommandType.read b = .ok (.known kind) ↔ StringText kind.wireName b := by
  simp only [read_tag_iff, of_json_known_iff, exists_eq_right, read_string_iff]

theorem of_json_tag_tells (v : Value) : TagTells v (CommandType.ofJson v) := by
  constructor
  case named => exact of_json_known_iff
  case kept =>
    intro given textless
    have unnamed : v.render ≠ "say_something" := by
      intro same
      have opens := render_opens_plain textless
      rw [same] at opens
      exact wire_name_no_opening .saySomething opens
    refine ⟨?_, unnamed⟩
    match v with
    | .null => exact absurd rfl given
    | .string s => exact absurd rfl (textless s)
    | .bool _ | .int _ | .float _ | .array _ | .object _ => rfl

theorem shown_as_written (t : CommandType) :
    t.toJson = .string t.display ∨ t.toJson = .null ∧ t.display = "<missing>" := by
  match t with
  | .known _ | .unknown (some _) => exact Or.inl rfl
  | .unknown none => exact Or.inr ⟨rfl, rfl⟩

theorem read_recovered (read : t.IsRead) : Recovered t := by
  have again := of_json_to_json (read_apart read)
  constructor
  case value =>
    have clear : ¬ Embeds t.toJson := by
      match t with
      | .known _ | .unknown (some _) => exact scalar_not_embeds (.string _)
      | .unknown none => exact scalar_not_embeds .null
    rw [decode_clear clear, again]
  case text =>
    have back := render_read (tag_writable t)
    rw [tag_sorted] at back
    exact read_tag_iff.mpr ⟨_, back, again⟩
  case shown => exact shown_as_written t

theorem value_tag (v : Value) : TagOfValue v := by
  constructor
  case item =>
    intro members tagged
    exact kind_of_tagged tagged
  case told =>
    intro clear
    exact ⟨_, decode_clear clear, of_json_tag_tells v⟩
  case known => exact (decode_known_iff .saySomething).trans resolve_string_iff
  case recovered =>
    intro t decoded
    obtain ⟨w, -, own⟩ := decode_iff.mp decoded
    exact read_recovered ⟨w, own⟩

theorem text_tag (b : Bytes) : TagOfText b := by
  constructor
  case told =>
    intro v held
    exact ⟨_, read_tag_iff.mpr ⟨v, held, rfl⟩, of_json_tag_tells v⟩
  case known => exact read_known_iff .saySomething
  case recovered =>
    intro t read
    obtain ⟨w, -, own⟩ := read_tag_iff.mp read
    exact read_recovered ⟨w, own⟩

end Decoded

/-- Only the string of its name decodes to a kind, in a value as in a text, unless the string is
    embedded; and every tag that has been decoded is recovered. -/
theorem tag_told_by_name (v : Value) (b : Bytes) : TagOfValue v ∧ TagOfText b :=
  ⟨value_tag v, text_tag b⟩

def namingObject : Value := .object [(embedKey, .string "\"say_something\"")]

theorem naming_object_taken_for_kind :
    (∀ s, namingObject ≠ .string s) ∧
    CommandType.decode namingObject = .ok (.known .saySomething) ∧
    CommandType.read (Text.utf8 namingObject.render) = .ok (.known .saySomething) := by
  have written : namingObject.render =
      "\x7b\"$serde_json::private::RawValue\":\"\\\"say_something\\\"\"\x7d" := rfl
  refine ⟨nofun, rfl, ?_⟩
  rw [written, read_known_iff]
  exact .embedded rfl rfl rfl rfl rfl rfl (.quoted rfl rfl rfl) rfl rfl

end CommandGateway
