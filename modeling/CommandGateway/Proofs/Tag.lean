import CommandGateway.Command
import CommandGateway.Proofs.Json.RoundTrip

/- The tags of commands. A tag that is no text is kept by its JSON text, which never is the name of
   a kind; so a tag that has been read is told by what is written for it. -/
namespace CommandGateway

open Json

def openings : List Char := "ntf-0123456789[\x7b".toList

def OpensPlain (s : String) : Prop := ∃ c cs, s.toList = c :: cs ∧ c ∈ openings

section Texts
variable {s : String} {v : Value}

theorem opens_append (opens : OpensPlain s) (t : String) : OpensPlain (s ++ t) := by
  obtain ⟨c, cs, spelt, member⟩ := opens
  exact ⟨c, cs ++ t.toList, by simp [spelt], member⟩

theorem opens_list {c : Char} (member : c ∈ openings) (cs : List Char) :
    OpensPlain (String.ofList (c :: cs)) := ⟨c, cs, String.toList_ofList, member⟩

theorem digit_opening {c : Char} (digit : 0x30 ≤ c.toNat ∧ c.toNat ≤ 0x39) : c ∈ openings := by
  obtain ⟨n, least, most, rfl⟩ : ∃ n, 0x30 ≤ n ∧ n ≤ 0x39 ∧ c = Char.ofNat n :=
    ⟨c.toNat, digit.1, digit.2, (Char.ofNat_toNat c).symm⟩
  interval_cases n <;> decide

theorem digits_open (n : Nat) : ∃ c cs, Nat.toDigits 10 n = c :: cs ∧ c ∈ openings := by
  obtain ⟨c, cs, digits⟩ := List.exists_cons_of_ne_nil (Nat.toDigits_ne_nil (b := 10) (n := n))
  exact ⟨c, cs, digits, digit_opening (digits_of n c (by simp [digits]))⟩

theorem int_opens (n : Int) : OpensPlain (toString n) := by
  cases n with
  | ofNat n =>
    obtain ⟨c, cs, digits, member⟩ := digits_open n
    have spelt : toString (Int.ofNat n) = String.ofList (c :: cs) := by
      rw [← digits, ← Nat.toString_eq_ofList_toDigits]
      rfl
    exact spelt ▸ opens_list member cs
  | negSucc n => exact opens_append ⟨'-', [], rfl, by decide⟩ _

/-- By the forms of a decimal. Each of them but the one below 1 begins with its first digit. -/
theorem short_opens (format : FractionFormat) (d : Decimal.Short) :
    OpensPlain (shortText format d) := by
  obtain ⟨c, cs, digits, member⟩ := digits_open d.digits
  have zero : OpensPlain "0." := ⟨'0', ['.'], rfl, by decide⟩
  unfold shortText
  simp only [decimalDigits, digits]
  split
  · cases cs with
    | nil => exact opens_append (opens_list member []) _
    | cons c' cs =>
      exact opens_append (opens_append (opens_append (opens_list member []) _) _) _
  · split
    · exact opens_append zero _
    · rename_i positive
      obtain ⟨n, point⟩ : ∃ n, ((c :: cs).length + d.exponent : Int).toNat = n + 1 :=
        Nat.exists_eq_add_one_of_ne_zero (by omega)
      split
      · exact opens_append (opens_list member _) _
      · rw [point]
        exact opens_append (opens_append (opens_list member _) _) _

theorem float_opens (bits : UInt64) : OpensPlain (floatText bits) := by
  have minus : OpensPlain "-" := ⟨'-', [], rfl, by decide⟩
  unfold floatText
  simp only
  split
  · split
    · exact opens_append minus _
    · exact ⟨'0', ['.', '0'], rfl, by decide⟩
  · split
    · exact opens_append minus _
    · exact short_opens _ _

theorem render_opens_plain (other : ∀ s, v ≠ .string s) : OpensPlain v.render := by
  cases v with
  | null => exact ⟨'n', _, rfl, by decide⟩
  | bool b => cases b <;> exact ⟨_, _, rfl, by decide⟩
  | int n => exact int_opens n
  | float bits => exact float_opens bits
  | string s => exact absurd rfl (other s)
  | array items => exact opens_append (opens_append ⟨'[', [], rfl, by decide⟩ _) _
  | object members => exact opens_append (opens_append ⟨'\x7b', [], rfl, by decide⟩ _) _

theorem wire_name_no_opening (kind : CommandKind) : ¬ OpensPlain kind.wireName := by
  rintro ⟨c, cs, spelt, member⟩
  cases kind
  cases spelt
  revert member
  decide

end Texts

def CommandType.IsRead (t : CommandType) : Prop := ∃ v, CommandType.ofJson v = t

section Tags
variable {t t' : CommandType}

theorem read_apart (read : t.IsRead) (kind : CommandKind) : t ≠ .unknown (some kind.wireName) := by
  obtain ⟨v, rfl⟩ := read
  intro named
  have other : ∀ w : Value, (∀ s, w ≠ .string s) → w.render ≠ kind.wireName := by
    intro w apart same
    exact wire_name_no_opening kind (same ▸ render_opens_plain apart)
  cases v with
  | string name =>
    cases known : CommandKind.ofWire? name with
    | some kind => simp [CommandType.ofJson, known] at named
    | none =>
      obtain rfl : name = kind.wireName := by simpa [CommandType.ofJson, known] using named
      simp [CommandKind.of_wire_wire_name] at known
  | null => cases named
  | bool _ | int _ | float _ | array _ | object _ =>
    exact other _ (by simp) (Option.some.inj (CommandType.unknown.inj named))

theorem of_json_known_iff {v : Value} {kind : CommandKind} :
    CommandType.ofJson v = .known kind ↔ v = .string kind.wireName := by
  constructor
  · intro known
    cases v with
    | string name =>
      cases found : CommandKind.ofWire? name with
      | some own =>
        have named : CommandType.ofJson (.string name) = .known own := by
          simp only [CommandType.ofJson, found]
        obtain rfl := CommandType.known.inj (named.symm.trans known)
        rw [CommandKind.of_wire_eq_some_iff.mp found]
      | none =>
        simp only [CommandType.ofJson, found] at known
        cases known
    | null | bool _ | int _ | float _ | array _ | object _ => cases known
  · rintro rfl
    simp only [CommandType.ofJson, CommandKind.of_wire_wire_name]

theorem of_json_to_json (apart : ∀ kind : CommandKind, t ≠ .unknown (some kind.wireName)) :
    CommandType.ofJson t.toJson = t := by
  cases t with
  | known kind => simp [CommandType.toJson, CommandType.ofJson, CommandKind.of_wire_wire_name]
  | unknown tag =>
    cases tag with
    | none => rfl
    | some name =>
      cases known : CommandKind.ofWire? name with
      | some kind => exact absurd (CommandKind.of_wire_eq_some_iff.mp known ▸ rfl) (apart kind)
      | none => simp [CommandType.toJson, CommandType.ofJson, known]

theorem tag_sorted (t : CommandType) : t.toJson.sorted = t.toJson := by
  match t with
  | .known _ | .unknown (some _) | .unknown none => rfl

theorem tag_writable (t : CommandType) {depth : Nat} : Writable depth t.toJson := by
  match t with
  | .known _ | .unknown (some _) => exact string_writable _
  | .unknown none => exact null_writable

/-- Tags that are read are written differently. -/
theorem tag_written_once (read : t.IsRead) (read' : t'.IsRead) (same : t.toJson = t'.toJson) :
    t = t' := by
  rw [← of_json_to_json (read_apart read), same, of_json_to_json (read_apart read')]

end Tags
end CommandGateway
