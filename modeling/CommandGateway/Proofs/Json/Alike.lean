import CommandGateway.Proofs.Json.RoundTrip

/- Documents that are alike: they are equal but for the order of members. For each document there is
   one with its members in order, which sorting leaves as it is. -/
namespace CommandGateway.Json

def Alike (v w : Value) : Prop := v.sorted = w.sorted

def Value.member? (key : String) : Value → Option Value
  | .object ms => lookup key ms
  | _ => none

mutual
theorem sorted_sorted (v : Value) : v.sorted.sorted = v.sorted := by
  cases v with
  | array items => rw [Value.sorted, Value.sorted, sorted_items_sorted items]
  | object ms =>
    have own : sortedMembers (sortMembers (sortedMembers ms)) = sortMembers (sortedMembers ms) := by
      rw [sorted_members_eq (sortMembers _)]
      conv_rhs => rw [← List.map_id (sortMembers (sortedMembers ms))]
      exact List.map_congr_left fun m member => by
        rw [sorted_members_sorted ms m (mem_sort member)]
        rfl
    rw [Value.sorted, Value.sorted, own, sort_of_ascending (sort_ascending _)]
  | null | bool _ | int _ | float _ | string _ => rfl

theorem sorted_items_sorted (vs : List Value) : sortedItems (sortedItems vs) = sortedItems vs := by
  cases vs with
  | nil => rfl
  | cons v vs => simp only [sortedItems, sorted_sorted v, sorted_items_sorted vs]

theorem sorted_members_sorted (ms : List Member) : ∀ m ∈ sortedMembers ms, m.2.sorted = m.2 := by
  cases ms with
  | nil => simp [sortedMembers]
  | cons m ms =>
    exact List.forall_mem_cons.mpr ⟨sorted_sorted m.2, sorted_members_sorted ms⟩
end

theorem member_sorted (key : String) (ms : List Member) :
    (Value.object ms).sorted.member? key = (lookup key ms.reverse).map Value.sorted := by
  have pairs : ∀ ms : List Member,
      lookup key (ms.map fun m => (m.1, m.2.sorted)) = (lookup key ms).map Value.sorted := by
    intro ms
    induction ms with
    | nil => rfl
    | cons m ms ih => by_cases same : m.1 = key <;> simp [lookup, same, ih]
  rw [Value.sorted, Value.member?, lookup_sort, sorted_members_eq, ← List.map_reverse, pairs]

end CommandGateway.Json
