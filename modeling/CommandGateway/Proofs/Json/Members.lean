import CommandGateway.Json.Value
import Mathlib.Data.String.Basic

/- Entries in the order of their keys. A list of entries that is sorted has each key once, and of
   entries that are sorted in with one key the last has its place. -/
namespace CommandGateway.Json

variable {α : Type}

def Ascending (ms : List (String × α)) : Prop := ms.Pairwise fun m n => m.1 < n.1

section Inserted
variable {key : String} {m n : String × α} {ms : List (String × α)}

theorem lookup_eq_find (key : String) (ms : List (String × α)) :
    lookup key ms = (ms.find? (·.1 = key)).map Prod.snd := by
  induction ms with
  | nil => rfl
  | cons m ms ih =>
    obtain ⟨k, v⟩ := m
    by_cases same : k = key <;> simp [lookup, same, ih]

theorem mem_of_lookup {v : α} (found : lookup key ms = some v) : (key, v) ∈ ms := by
  rw [lookup_eq_find, Option.map_eq_some_iff] at found
  obtain ⟨m, here, rfl⟩ := found
  have same : m.1 = key := by simpa using List.find?_some here
  exact same ▸ List.mem_of_find?_eq_some here

theorem lookup_iff_mem (apart : ms.Pairwise fun m n => m.1 ≠ n.1) {v : α} :
    lookup key ms = some v ↔ (key, v) ∈ ms := by
  refine ⟨mem_of_lookup, fun member => ?_⟩
  induction ms with
  | nil => cases member
  | cons first rest ih =>
    obtain ⟨others, later⟩ := List.pairwise_cons.mp apart
    obtain ⟨k, w⟩ := first
    rcases List.mem_cons.mp member with same | behind
    · obtain ⟨rfl, rfl⟩ := Prod.mk.inj same
      simp [lookup]
    · rw [lookup, if_neg (others _ behind)]
      exact ih later behind

theorem lookup_append (key : String) (first second : List (String × α)) :
    lookup key (first ++ second) = (lookup key first).or (lookup key second) := by
  simp only [lookup_eq_find, List.find?_append]
  cases first.find? (·.1 = key) <;> simp

theorem lookup_insert (key : String) (m : String × α) (ms : List (String × α)) :
    lookup key (insert m ms) = if m.1 = key then some m.2 else lookup key ms := by
  obtain ⟨k, v⟩ := m
  induction ms with
  | nil => simp [insert, lookup]
  | cons n ms ih =>
    obtain ⟨l, w⟩ := n
    simp only [insert]
    split
    · rename_i same
      obtain rfl : k = l := same
      by_cases own : k = key <;> simp [lookup, own]
    · split
      · rfl
      · rename_i apart _
        by_cases own : l = key
        · have other : k ≠ key := fun same => apart (same.trans own.symm)
          simp [lookup, own, other]
        · simp [lookup, own, ih]

theorem mem_insert (member : n ∈ insert m ms) : n = m ∨ n ∈ ms := by
  induction ms with
  | nil => exact Or.inl (List.mem_singleton.mp member)
  | cons first rest ih =>
    simp only [insert] at member
    split at member
    · rcases List.mem_cons.mp member with rfl | later
      · exact Or.inl rfl
      · exact Or.inr (List.mem_cons_of_mem _ later)
    · split at member
      · exact List.mem_cons.mp member
      · rcases List.mem_cons.mp member with rfl | later
        · exact Or.inr List.mem_cons_self
        · exact (ih later).imp_right (List.mem_cons_of_mem _)

theorem insert_ascending (m : String × α) (sorted : Ascending ms) : Ascending (insert m ms) := by
  induction ms with
  | nil => exact List.pairwise_singleton _ _
  | cons first rest ih =>
    obtain ⟨below, others⟩ := List.pairwise_cons.mp sorted
    simp only [insert]
    split
    · rename_i same
      exact List.pairwise_cons.mpr ⟨fun n member => same ▸ below n member, others⟩
    · rename_i apart
      split
      · rename_i less
        refine List.pairwise_cons.mpr ⟨fun n member => ?_, sorted⟩
        rcases List.mem_cons.mp member with rfl | later
        · exact less
        · exact less.trans (below n later)
      · rename_i notLess
        have more : first.1 < m.1 := lt_of_le_of_ne (not_lt.mp notLess) (Ne.symm apart)
        refine List.pairwise_cons.mpr ⟨fun n member => ?_, ih others⟩
        rcases mem_insert member with rfl | later
        · exact more
        · exact below n later

theorem insert_last (last : ∀ n ∈ ms, n.1 < m.1) : insert m ms = ms ++ [m] := by
  induction ms with
  | nil => rfl
  | cons first rest ih =>
    have less := last first List.mem_cons_self
    simp only [insert, if_neg less.ne', if_neg less.asymm, List.cons_append,
      ih fun n member => last n (List.mem_cons_of_mem _ member)]

end Inserted

section Sorted
variable {ms : List (String × α)}

theorem sort_onto_ascending {done : List (String × α)} (sorted : Ascending done)
    (ms : List (String × α)) : Ascending (ms.foldl (fun done m => insert m done) done) := by
  induction ms generalizing done with
  | nil => exact sorted
  | cons m ms ih => exact ih (insert_ascending m sorted)

theorem sort_ascending (ms : List (String × α)) : Ascending (sortMembers ms) :=
  sort_onto_ascending List.Pairwise.nil ms

theorem sort_onto_sorted {done : List (String × α)} (sorted : Ascending (done ++ ms)) :
    ms.foldl (fun done m => insert m done) done = done ++ ms := by
  induction ms generalizing done with
  | nil => simp
  | cons m ms ih =>
    have last : ∀ n ∈ done, n.1 < m.1 := fun n member =>
      (List.pairwise_append.mp sorted).2.2 n member m List.mem_cons_self
    rw [List.foldl_cons, insert_last last, ih (by simpa using sorted)]
    simp

theorem sort_of_ascending (sorted : Ascending ms) : sortMembers ms = ms := by
  have alone : Ascending ([] ++ ms) := sorted
  exact sort_onto_sorted alone

theorem lookup_sort_onto (key : String) (done ms : List (String × α)) :
    lookup key (ms.foldl (fun done m => insert m done) done) =
      (lookup key ms.reverse).or (lookup key done) := by
  induction ms generalizing done with
  | nil => rfl
  | cons m ms ih =>
    rw [List.foldl_cons, ih, lookup_insert, List.reverse_cons, lookup_append]
    cases lookup key ms.reverse <;> by_cases own : m.1 = key <;> simp [lookup, own]

/-- Of several members with one key the last counts. -/
theorem lookup_sort (key : String) (ms : List (String × α)) :
    lookup key (sortMembers ms) = lookup key ms.reverse := by
  rw [sortMembers, lookup_sort_onto]
  simp [lookup]

theorem mem_sort_onto {done : List (String × α)} {n : String × α}
    (member : n ∈ ms.foldl (fun done m => insert m done) done) : n ∈ done ∨ n ∈ ms := by
  induction ms generalizing done with
  | nil => exact Or.inl member
  | cons m ms ih =>
    rcases ih member with inserted | later
    · rcases mem_insert inserted with rfl | before
      · exact Or.inr List.mem_cons_self
      · exact Or.inl before
    · exact Or.inr (List.mem_cons_of_mem _ later)

theorem mem_sort {n : String × α} (member : n ∈ sortMembers ms) : n ∈ ms :=
  (mem_sort_onto member).resolve_left (by simp)

/-- Of several entries with one key only the last stays. -/
theorem mem_sort_iff_lookup {key : String} {v : α} :
    (key, v) ∈ sortMembers ms ↔ lookup key ms.reverse = some v := by
  rw [← lookup_sort]
  exact (lookup_iff_mem ((sort_ascending ms).imp ne_of_lt)).symm

theorem mem_sort_iff_mem (apart : ms.Pairwise fun m n => m.1 ≠ n.1) {key : String} {v : α} :
    (key, v) ∈ sortMembers ms ↔ (key, v) ∈ ms := by
  have turned : ms.reverse.Pairwise fun m n => m.1 ≠ n.1 :=
    List.pairwise_reverse.mpr (apart.imp Ne.symm)
  rw [mem_sort_iff_lookup, lookup_iff_mem turned, List.mem_reverse]

end Sorted
end CommandGateway.Json
