import CommandGateway.Json.Shape
import CommandGateway.Proofs.Json.Reading

/- What a text of a certain shape is read as: a list of what its items are read as, and a record
   of what its fields are read as or fall back to. -/
namespace CommandGateway.Json

/-- A member that comes from a field: read by it, or put in its place. -/
def FromField (fields : List FieldReader) (m : Member) : Prop :=
  ∃ field ∈ fields, field.name = m.1 ∧
    (field.fallback = some m.2 ∨ ∃ depth b rest, field.reader depth b = .ok (m.2, rest))

section Fields
variable {name : String} {fields all : List FieldReader} {depth : Nat} {b rest : Bytes}

theorem read_row {count : Nat} {done ms : List Member} (within : ∀ f ∈ fields, f ∈ all)
    (before : ∀ m ∈ done, FromField all m)
    (read : readRow name count depth done b fields = .ok (ms, rest)) :
    ∀ m ∈ ms, FromField all m := by
  induction fields generalizing done b with
  | nil =>
    simp only [readRow] at read
    split at read
    · cases read
    · cases read
      simpa using before
  | cons field fields ih =>
    obtain ⟨own, within⟩ := List.forall_mem_cons.mp within
    simp only [readRow] at read
    split at read
    · cases read
    · split at read
      · rename_i v fallback
        exact ih within
          (List.forall_mem_cons.mpr ⟨⟨field, own, rfl, Or.inl fallback⟩, before⟩) read
      · cases read
    · split at read
      · cases read
      · rename_i v t value
        exact ih within
          (List.forall_mem_cons.mpr ⟨⟨field, own, rfl, Or.inr ⟨_, _, _, value⟩⟩, before⟩) read

theorem arrange_from {found ms : List Member} (within : ∀ f ∈ fields, f ∈ all)
    (before : ∀ m ∈ found, FromField all m) (arranged : arrange found fields = .ok ms) :
    ∀ m ∈ ms, FromField all m := by
  induction fields generalizing ms with
  | nil =>
    cases arranged
    simp
  | cons field fields ih =>
    obtain ⟨own, within⟩ := List.forall_mem_cons.mp within
    simp only [arrange] at arranged
    split at arranged
    · cases arranged
    · cases arranged
    · rename_i v rest present later
      cases arranged
      refine List.forall_mem_cons.mpr ⟨?_, ih within later⟩
      rcases Option.or_eq_some_iff.mp present with held | ⟨-, fallback⟩
      · exact before _ (mem_of_lookup held)
      · exact ⟨field, own, rfl, Or.inl fallback⟩

theorem read_named {first : Bool} {found ms : List Member} {fuel : Bytes}
    (before : ∀ m ∈ found, FromField fields m)
    (read : readNamed fields depth first found b fuel = .ok (ms, rest)) :
    ∀ m ∈ ms, FromField fields m := by
  induction fuel generalizing first found b with
  | nil => cases read
  | cons _ fuel ih =>
    simp only [readNamed] at read
    split at read
    · cases read
    · split at read
      · cases read
      · rename_i members arranged
        cases read
        exact arrange_from (fun _ member => member) before arranged
    · split at read
      · cases read
      · split at read
        · -- a member of another name is passed over
          split at read
          · cases read
          · split at read
            · cases read
            · exact ih before read
        · rename_i field wanted
          split at read
          · cases read
          · split at read
            · cases read
            · split at read
              · cases read
              · rename_i v t value
                have own := List.find?_some wanted
                simp only [decide_eq_true_eq] at own
                exact ih (List.forall_mem_cons.mpr
                  ⟨⟨field, List.mem_of_find?_eq_some wanted, own, Or.inr ⟨_, _, _, value⟩⟩,
                    before⟩) read

theorem refused {α : Type} {wanted : String} {c : UInt8} {a : α} :
    refuse wanted c b ≠ .ok a := by
  intro told
  simp only [refuse] at told
  split at told
  · cases told
  · split at told
    · cases told
    · split at told <;> cases told

theorem read_record {v : Value} (read : readRecord name fields depth b = .ok (v, rest)) :
    ∃ ms, v = .object ms ∧ ∀ m ∈ ms, FromField fields m := by
  simp only [readRecord] at read
  split at read
  · cases read
  · split at read
    · split at read
      · cases read
      · split at read
        · cases read
        · rename_i ms t held
          cases read
          refine ⟨ms, rfl, ?_⟩
          split at held
          · exact read_row (fun _ member => member) (by simp) held
          · exact read_named (by simp) held
    · exact absurd read refused

theorem read_list {item : Nat → Reader Value} {P : Value → Prop} {v : Value}
    (keeps : ∀ depth b v rest, item depth b = .ok (v, rest) → P v)
    (read : readList item depth b = .ok (v, rest)) : ∃ vs, v = .array vs ∧ ∀ w ∈ vs, P w := by
  simp only [readList] at read
  split at read
  · cases read
  · split at read
    · split at read
      · cases read
      · split at read
        · cases read
        · rename_i vs t items
          cases read
          obtain ⟨later, rfl, listed⟩ := read_items items
          exact ⟨_, rfl, items_forall (keeps _) listed⟩
    · exact absurd read refused

end Fields
end CommandGateway.Json
