import CommandGateway.Proofs.Json.Reading

/- Embedded values. A document may hold one for any value, and what is read of such a text is the
   value itself. An object that only shows the key of an embedded value first when its members have
   been put in order is one that cannot be read from a value again. -/
namespace CommandGateway.Json

inductive Holds (P : Value → Prop) : Value → Prop
  | here {v : Value} (own : P v) : Holds P v
  | item {v : Value} {items : List Value} (member : v ∈ items) (inner : Holds P v) :
      Holds P (.array items)
  | member {m : Member} {ms : List Member} (member : m ∈ ms) (inner : Holds P m.2) :
      Holds P (.object ms)

/-- An object that shows the key of an embedded value first. -/
def ShowsEmbedKey (v : Value) : Prop := ∃ inner ms, v = .object ((embedKey, inner) :: ms)

abbrev Embeds : Value → Prop := Holds ShowsEmbedKey

section Inside
variable {P : Value → Prop}

theorem holds_array_iff {items : List Value} (other : ¬ P (.array items)) :
    Holds P (.array items) ↔ ∃ v ∈ items, Holds P v := by
  constructor
  · intro holds
    cases holds with
    | here own => exact absurd own other
    | item member inner => exact ⟨_, member, inner⟩
  · rintro ⟨v, member, inner⟩
    exact .item member inner

theorem holds_object_iff {ms : List Member} (other : ¬ P (.object ms)) :
    Holds P (.object ms) ↔ ∃ m ∈ ms, Holds P m.2 := by
  constructor
  · intro holds
    cases holds with
    | here own => exact absurd own other
    | member member inner => exact ⟨_, member, inner⟩
  · rintro ⟨m, member, inner⟩
    exact .member member inner

theorem holds_scalar_iff {v : Value} (scalar : Scalar v) : Holds P v ↔ P v := by
  refine ⟨fun holds => ?_, .here⟩
  cases holds with
  | here own => exact own
  | item | member => cases scalar

end Inside

section Resolved
variable {v w : Value}

theorem scalar_not_embeds (scalar : Scalar v) : ¬ Embeds v := by
  rw [Embeds, holds_scalar_iff scalar]
  rintro ⟨_, _, rfl⟩
  cases scalar

theorem resolve_scalar (scalar : Scalar v) : v.resolve = .ok v := by
  cases scalar <;> simp [Value.resolve]

theorem embeds_array_iff {items : List Value} :
    Embeds (.array items) ↔ ∃ v ∈ items, Embeds v :=
  holds_array_iff (by simp [ShowsEmbedKey])

theorem embeds_object_iff {ms : List Member} (plain : embedded? ms = none) :
    Embeds (.object ms) ↔ ∃ m ∈ ms, Embeds m.2 := by
  refine holds_object_iff ?_
  rintro ⟨inner, rest, same⟩
  cases same
  simp [embedded?] at plain

theorem embedded_some_iff {ms : List Member} {count : Nat} :
    embedded? ms = some (v, count) ↔
      ∃ rest, ms = (embedKey, v) :: rest ∧ count = rest.length + 1 := by
  constructor
  · intro embeds
    cases ms with
    | nil => cases embeds
    | cons m rest =>
      obtain ⟨key, w⟩ := m
      simp only [embedded?] at embeds
      split at embeds
      · rename_i own
        subst own
        cases embeds
        exact ⟨rest, rfl, rfl⟩
      · cases embeds
  · rintro ⟨rest, rfl, rfl⟩
    simp only [embedded?, if_true]

mutual
theorem resolve_clear (v : Value) (clear : ¬ Embeds v) : v.resolve = .ok v := by
  match v with
  | .array items =>
    have inside : ∀ w ∈ items, ¬ Embeds w := fun w member inner => clear (.item member inner)
    rw [Value.resolve, resolve_items_clear items inside]
  | .object ms =>
    have inside : ∀ m ∈ ms, ¬ Embeds m.2 := fun m member inner => clear (.member member inner)
    have plain : embedded? ms = none := by
      rw [Option.eq_none_iff_forall_ne_some]
      rintro ⟨w, count⟩ embeds
      obtain ⟨rest, rfl, -⟩ := embedded_some_iff.mp embeds
      exact clear (.here ⟨w, rest, rfl⟩)
    rw [Value.resolve, plain, resolve_members_clear ms inside]
  | .null | .bool _ | .int _ | .float _ | .string _ => rfl

theorem resolve_items_clear (vs : List Value) (clear : ∀ v ∈ vs, ¬ Embeds v) :
    resolveItems vs = .ok vs := by
  match vs with
  | [] => rfl
  | v :: vs =>
    obtain ⟨first, others⟩ := List.forall_mem_cons.mp clear
    simp only [resolveItems, resolve_clear v first, resolve_items_clear vs others]

theorem resolve_members_clear (ms : List Member) (clear : ∀ m ∈ ms, ¬ Embeds m.2) :
    resolveMembers ms = .ok ms := by
  match ms with
  | [] => rfl
  | (key, v) :: ms =>
    obtain ⟨first, others⟩ := List.forall_mem_cons.mp clear
    simp only [resolveMembers, resolve_clear v first, resolve_members_clear ms others]
end

theorem resolve_items_iff {items ws : List Value}
    (each : ∀ v ∈ items, ∀ w, v.resolve = .ok w ↔ ¬ Embeds v ∧ w = v) :
    resolveItems items = .ok ws ↔ (∀ v ∈ items, ¬ Embeds v) ∧ ws = items := by
  induction items generalizing ws with
  | nil => simp [resolveItems, eq_comm]
  | cons v vs ih =>
    obtain ⟨first, others⟩ := List.forall_mem_cons.mp each
    constructor
    · intro resolved
      simp only [resolveItems] at resolved
      split at resolved
      · cases resolved
      · rename_i w now
        split at resolved
        · cases resolved
        · rename_i us later
          cases resolved
          obtain ⟨clear, rfl⟩ := (first w).mp now
          obtain ⟨clears, rfl⟩ := (ih others).mp later
          exact ⟨List.forall_mem_cons.mpr ⟨clear, clears⟩, rfl⟩
    · rintro ⟨clear, rfl⟩
      exact resolve_items_clear _ clear

theorem resolve_members_iff {ms ns : List Member}
    (each : ∀ m ∈ ms, ∀ w, m.2.resolve = .ok w ↔ ¬ Embeds m.2 ∧ w = m.2) :
    resolveMembers ms = .ok ns ↔ (∀ m ∈ ms, ¬ Embeds m.2) ∧ ns = ms := by
  induction ms generalizing ns with
  | nil => simp [resolveMembers, eq_comm]
  | cons m ms ih =>
    obtain ⟨key, v⟩ := m
    obtain ⟨first, others⟩ := List.forall_mem_cons.mp each
    constructor
    · intro resolved
      simp only [resolveMembers] at resolved
      split at resolved
      · cases resolved
      · rename_i w now
        split at resolved
        · cases resolved
        · rename_i us later
          cases resolved
          obtain ⟨clear, rfl⟩ := (first w).mp now
          obtain ⟨clears, rfl⟩ := (ih others).mp later
          exact ⟨List.forall_mem_cons.mpr ⟨clear, clears⟩, rfl⟩
    · rintro ⟨clear, rfl⟩
      exact resolve_members_clear _ clear

theorem open_embedded_iff {count : Nat} :
    openEmbedded v count = .ok w ↔
      ∃ inner, v = .string inner ∧ read (Text.utf8 inner) = .ok w ∧ count = 1 := by
  constructor
  · intro opened
    simp only [openEmbedded] at opened
    split at opened
    · rename_i inner
      split at opened
      · cases opened
      · rename_i held
        split at opened
        · rename_i one
          cases opened
          exact ⟨inner, rfl, held, one⟩
        · cases opened
    · cases opened
  · rintro ⟨inner, rfl, held, one⟩
    simp only [openEmbedded, held, if_pos one]

/-- An object that has been read and shows the key first has more members, and so embeds nothing. -/
theorem embedded_unreadable {ms : List Member} {held : Value} {count : Nat}
    (apart : ms = [] ∨ ∃ m ∈ ms, m.1 ≠ embedKey) (embeds : embedded? ms = some (held, count)) :
    Embeds (.object ms) ∧ openEmbedded held count ≠ .ok w := by
  obtain ⟨rest, rfl, many⟩ := embedded_some_iff.mp embeds
  refine ⟨.here ⟨held, rest, rfl⟩, fun opened => ?_⟩
  obtain ⟨inner, -, -, rfl⟩ := open_embedded_iff.mp opened
  obtain rfl : rest = [] := by simpa using many
  simp at apart

theorem resolve_iff (tidy : Tidy v) : v.resolve = .ok w ↔ ¬ Embeds v ∧ w = v := by
  induction tidy generalizing w with
  | scalar scalar => simp [resolve_scalar scalar, scalar_not_embeds scalar, eq_comm]
  | array items all ih =>
    have each : ∀ ws, resolveItems items = .ok ws ↔ (∀ v ∈ items, ¬ Embeds v) ∧ ws = items :=
      fun ws => resolve_items_iff fun v member w => ih v member
    constructor
    · intro resolved
      simp only [Value.resolve] at resolved
      split at resolved
      · cases resolved
      · rename_i ws found
        cases resolved
        obtain ⟨clear, rfl⟩ := (each ws).mp found
        exact ⟨by simpa [embeds_array_iff] using clear, rfl⟩
    · rintro ⟨clear, rfl⟩
      exact resolve_clear _ clear
  | object members sorted apart all ih =>
    have each : ∀ ns, resolveMembers members = .ok ns ↔
        (∀ m ∈ members, ¬ Embeds m.2) ∧ ns = members :=
      fun ns => resolve_members_iff fun m member w => ih m member
    cases embeds : embedded? members with
    | some held =>
      obtain ⟨held, count⟩ := held
      obtain ⟨hides, unread⟩ := embedded_unreadable (w := w) apart embeds
      simp [Value.resolve, embeds, unread, hides]
    | none =>
      constructor
      · intro resolved
        simp only [Value.resolve, embeds] at resolved
        split at resolved
        · cases resolved
        · rename_i ns found
          cases resolved
          obtain ⟨clear, rfl⟩ := (each ns).mp found
          exact ⟨by simpa [embeds_object_iff embeds] using clear, rfl⟩
      · rintro ⟨clear, rfl⟩
        exact resolve_clear _ clear

end Resolved

/-- The text of an object with these members in this order, or one that holds such a text as an
    embedded value. -/
inductive ObjectText : Bytes → List Member → Prop
  | object {b t rest fuel : Bytes} {depth : Nat} {written : List Member}
      (opens : skipBlank b = 0x7b :: t)
      (listed : MembersOf (readValue (readNested fuel) depth) true t written rest)
      (apart : ∀ m ∈ written.head?, m.1 ≠ embedKey) (ends : skipBlank rest = []) :
      ObjectText b written
  | embedded {b t r u w z rest : Bytes} {s : String} {v : Value} {written : List Member}
      (opens : skipBlank b = 0x7b :: t) (here : nextKey true t = .ok (.entry r))
      (named : readKey r = .ok (embedKey, u)) (quoted : skipBlank u = 0x22 :: w)
      (spelled : readText w = .ok (s, z)) (inner : ObjectText (Text.utf8 s) written)
      (closes : endEmbedded v z = .ok (v, rest)) (ends : skipBlank rest = []) :
      ObjectText b written

section Texts
variable {b : Bytes} {members : List Member}

theorem nested_object_text {fuel : Bytes} (read : readNested fuel b = .ok (.object members)) :
    ∃ written, ObjectText b written ∧ members = sortMembers written := by
  induction fuel generalizing b with
  | nil => cases read
  | cons _ fuel ih =>
    obtain ⟨rest, value, ends⟩ := whole_read read
    have value : readWith (readNested fuel) (some (readValue (readNested fuel) 126)) b =
        .ok (.object members, rest) := value
    generalize same : Value.object members = v at value
    cases read_with value with
    | scalar _ _ scalar =>
      subst same
      cases read_scalar scalar
    | array => cases same
    | object opens nests listed =>
      subst same
      cases nests
      cases listed with
      | members written listed apart => exact ⟨written, .object opens listed apart ends, rfl⟩
      | embedded here named quoted spelled inner closes =>
        obtain ⟨written, text, rfl⟩ := ih inner
        exact ⟨written, .embedded opens here named quoted spelled text closes ends, rfl⟩

theorem last_member_counts (held : read b = .ok (.object members)) :
    ∃ written, ObjectText b written ∧ ∀ key, lookup key members = lookup key written.reverse := by
  obtain ⟨written, text, rfl⟩ := nested_object_text held
  exact ⟨written, text, fun key => lookup_sort key written⟩

end Texts
end CommandGateway.Json
