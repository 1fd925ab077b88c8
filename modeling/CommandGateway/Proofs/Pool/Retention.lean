import CommandGateway.Pool.Tracker
import Mathlib.Data.List.Nodup

/- What a tracker keeps. Looking a job up commutes with every change of the table, and the finished
   jobs that are kept are the newest ones, whatever was set before. -/
namespace CommandGateway.Pool

def newest {α : Type} (n : Nat) (l : List α) : List α := l.drop (l.length - n)

def surplus {α : Type} (n : Nat) (l : List α) : List α := l.take (l.length - n)

section Newest
variable {α : Type} {n : Nat} {l : List α} {x y : α}

theorem newest_length_le : (newest n l).length ≤ n := by
  simp only [newest, List.length_drop]
  omega

theorem mem_of_mem_newest (h : x ∈ newest n l) : x ∈ l := List.mem_of_mem_drop h

theorem newest_nodup (nodup : l.Nodup) : (newest n l).Nodup := nodup.drop

theorem newest_newest_append : newest n (newest n l ++ [x]) = newest n (l ++ [x]) := by
  simp only [newest, List.length_append, List.length_drop, List.length_singleton]
  by_cases few : l.length ≤ n
  · have none : l.length - n = 0 := by omega
    simp [none]
  · have all : l.length - (l.length - n) = n := by omega
    rw [all]
    have one : (l.drop (l.length - n) ++ [x]) = (l ++ [x]).drop (l.length - n) := by
      rw [List.drop_append_of_le_length (by omega)]
    rw [one, List.drop_drop]
    congr 1
    omega

theorem mem_newest_middle {before after : List α} (nodup : (before ++ x :: after).Nodup) :
    x ∈ newest n (before ++ x :: after) ↔ after.length < n := by
  have absent := (List.nodup_cons.mp (List.nodup_middle.mp nodup)).1
  simp only [List.mem_append, not_or] at absent
  simp only [newest, List.length_append, List.length_cons]
  by_cases few : after.length < n
  · rw [List.drop_append_of_le_length (by omega)]
    simp [few]
  · obtain ⟨j, gap⟩ : ∃ j, after.length = n + j := ⟨after.length - n, by omega⟩
    have past : before.length + (after.length + 1) - n = before.length + (j + 1) := by omega
    rw [past, List.drop_length_add_append, List.drop_succ_cons]
    simp only [few, iff_false]
    exact fun member => absent.2 (List.mem_of_mem_drop member)

theorem mem_newest_or_surplus (member : x ∈ l) : x ∈ surplus n l ∨ x ∈ newest n l := by
  have parts : surplus n l ++ newest n l = l := List.take_append_drop _ _
  rwa [← parts, List.mem_append] at member

theorem surplus_not_newest (nodup : l.Nodup) (dropped : x ∈ surplus n l) : x ∉ newest n l := by
  have parts : surplus n l ++ newest n l = l := List.take_append_drop _ _
  have apart := (List.nodup_append.mp (parts.symm ▸ nodup)).2.2
  exact fun kept => apart x dropped x kept rfl

/-- One more item keeps among the newest what was there, unless it becomes surplus. -/
theorem mem_newest_append (nodup : (l ++ [x]).Nodup) :
    y ∈ newest n (l ++ [x]) ↔ y ∈ newest n l ++ [x] ∧ y ∉ surplus n (newest n l ++ [x]) := by
  have kept : (newest n l ++ [x]).Nodup := by
    rw [List.nodup_append] at nodup ⊢
    exact ⟨newest_nodup nodup.1, nodup.2.1,
      fun a member b single => nodup.2.2 a (mem_of_mem_newest member) b single⟩
  rw [← newest_newest_append]
  constructor
  · intro member
    exact ⟨mem_of_mem_newest member, fun dropped => surplus_not_newest kept dropped member⟩
  · rintro ⟨member, stays⟩
    exact (mem_newest_or_surplus member).resolve_left stays

end Newest

section Table
variable {jobs : List (Uuid × JobState)} {id other : Uuid} {state : JobState}

theorem state_of_filter (keep : Uuid → Bool) (jobs : List (Uuid × JobState)) (id : Uuid) :
    stateOf id (jobs.filter fun job => keep job.1) =
      if keep id then stateOf id jobs else none := by
  induction jobs with
  | nil => simp [stateOf]
  | cons job rest ih =>
    obtain ⟨name, held⟩ := job
    by_cases same : name = id
    · subst name
      cases kept : keep id <;> simp_all [stateOf]
    · cases kept : keep name <;> simp_all [stateOf]

theorem state_of_without :
    stateOf id (without other jobs) = if id = other then none else stateOf id jobs := by
  have kept := state_of_filter (fun name => decide (name ≠ other)) jobs id
  by_cases same : id = other <;> simpa [without, same] using kept

theorem state_of_eq_none_iff : stateOf id jobs = none ↔ id ∉ jobs.map Prod.fst := by
  induction jobs with
  | nil => simp [stateOf]
  | cons job rest ih =>
    obtain ⟨name, held⟩ := job
    by_cases same : name = id
    · simp [stateOf, same]
    · simp [stateOf, same, ih, Ne.symm same]

theorem keys_without_nodup (keys : (jobs.map Prod.fst).Nodup) :
    ((without id jobs).map Prod.fst).Nodup :=
  keys.sublist (List.filter_sublist.map _)

theorem keys_cons_without_nodup (keys : (jobs.map Prod.fst).Nodup) :
    (((id, state) :: without id jobs).map Prod.fst).Nodup := by
  refine List.nodup_cons.mpr ⟨?_, keys_without_nodup keys⟩
  exact state_of_eq_none_iff.mp (by simp [state_of_without])

theorem evict_eq (retained : Nat) (finished : List Uuid) :
    evict retained finished jobs =
      (newest retained finished, jobs.filter fun job => job.1 ∉ surplus retained finished) := by
  induction finished generalizing jobs with
  | nil => simp [evict, newest, surplus]
  | cons oldest rest ih =>
    unfold evict
    split
    · rename_i many
      simp only [List.length_cons] at many
      have more : rest.length + 1 - retained = (rest.length - retained) + 1 := by omega
      have kept : newest retained (oldest :: rest) = newest retained rest := by
        simp [newest, more]
      have gone : surplus retained (oldest :: rest) = oldest :: surplus retained rest := by
        simp [surplus, more]
      rw [ih, kept, gone, without, List.filter_filter]
      congr 1
      apply List.filter_congr
      intro job _
      by_cases first : job.1 = oldest <;> simp [first]
    · rename_i few
      simp only [List.length_cons] at few
      have none : rest.length + 1 - retained = 0 := by omega
      simp [newest, surplus, none]

end Table

section Changes
variable {t : Tracker} {id other : Uuid} {state : JobState}

theorem get_forget : (t.forget id).get? other = if other = id then none else t.get? other :=
  state_of_without

theorem set_pending (pending : state.isFinished = false) :
    t.set id state = { t with jobs := (id, state) :: without id t.jobs } := by
  simp [Tracker.set, pending]

theorem get_set_pending (pending : state.isFinished = false) :
    (t.set id state).get? other = if other = id then some state else t.get? other := by
  rw [set_pending pending]
  by_cases same : other = id
  · simp [Tracker.get?, stateOf, same]
  · simp [Tracker.get?, stateOf, same, Ne.symm same, state_of_without]

theorem set_finished (finished : state.isFinished = true) :
    t.set id state =
      { t with
        finished := newest t.retained (t.finished ++ [id])
        jobs := ((id, state) :: without id t.jobs).filter fun job =>
          job.1 ∉ surplus t.retained (t.finished ++ [id]) } := by
  simp only [Tracker.set, finished, if_true, evict_eq]

theorem get_set_finished (finished : state.isFinished = true) :
    (t.set id state).get? other =
      if other ∈ surplus t.retained (t.finished ++ [id]) then none
      else if other = id then some state else t.get? other := by
  have kept := state_of_filter
    (fun name => decide (name ∉ surplus t.retained (t.finished ++ [id])))
    ((id, state) :: without id t.jobs) other
  rw [set_finished finished]
  unfold Tracker.get?
  rw [kept]
  by_cases same : other = id
  · simp [stateOf, same]
  · simp [stateOf, same, Ne.symm same, state_of_without]

end Changes
end CommandGateway.Pool
