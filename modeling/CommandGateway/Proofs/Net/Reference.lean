import CommandGateway.Net.Reference
import CommandGateway.Proofs.Net.Place

/- Which paths refer to themselves. A path from the root stays what it is when it is resolved, just
   when it has no dot segment and no second slash at its start: dot segments only make a path
   shorter, and two slashes make an authority of its first segment. -/
namespace CommandGateway.Net

open Text

def spell (segments : List (List Char)) : List Char := segments.flatMap ('/' :: ·)

@[simp] theorem spell_cons (segment : List Char) (segments : List (List Char)) :
    spell (segment :: segments) = '/' :: (segment ++ spell segments) := rfl

def size (parts : List (List Char)) : Nat := parts.flatten.length

@[simp] theorem size_cons (part : List Char) (parts : List (List Char)) :
    size (part :: parts) = part.length + size parts := by
  simp [size]

section Dots
variable {segments done : List (List Char)}

theorem spell_pieces (cs : List Char) : spell (pieces (· = '/') cs) = '/' :: cs := by
  induction cs with
  | nil => rfl
  | cons c cs ih =>
    obtain ⟨first, rest, cut⟩ := List.exists_cons_of_ne_nil (pieces_ne_nil (p := (· = '/')) cs)
    rw [cut] at ih
    have tail : first ++ spell rest = cs := by simpa [spell] using ih
    simp only [pieces, cut]
    split
    · rename_i slash
      obtain rfl : c = '/' := by simpa using slash
      simp [spell, ← tail]
    · simp [spell, ← tail]

theorem remove_dots_straight (straight : ∀ s ∈ segments, isDots s = false) :
    removeDots done segments = (segments.map ('/' :: ·)).reverse ++ done := by
  induction segments generalizing done with
  | nil => rfl
  | cons first rest ih =>
    obtain ⟨own, others⟩ := List.forall_mem_cons.mp straight
    simp only [isDots, Bool.or_eq_false_iff, decide_eq_false_iff_not] at own
    cases rest with
    | nil => simp [removeDots, own]
    | cons second rest =>
      rw [removeDots, if_neg own.2, if_neg own.1, ih others]
      simp

theorem size_tail (parts : List (List Char)) : size parts.tail ≤ size parts := by
  cases parts <;> simp

theorem remove_dots_shorter (segments done : List (List Char)) :
    size (removeDots done segments) + segments.countP isDots ≤
      size done + (spell segments).length := by
  induction segments generalizing done with
  | nil => simp [removeDots, spell]
  | cons first rest ih =>
    have popped := size_tail done
    cases rest with
    | nil =>
      simp only [removeDots]
      split
      · rename_i same
        simp [same, isDots, spell]
        omega
      · split
        · rename_i same
          simp [same, isDots, spell]
          omega
        · rename_i dots dot
          simp [isDots, dot, dots, spell]
          omega
    | cons second rest =>
      rw [removeDots, List.countP_cons, spell_cons]
      split
      · rename_i same
        have later := ih done.tail
        simp [same, isDots] at later ⊢
        omega
      · split
        · rename_i same
          have later := ih done
          simp [same, isDots] at later ⊢
          omega
        · rename_i dots dot
          have later := ih (('/' :: first) :: done)
          simp [isDots, dot, dots] at later ⊢
          omega

theorem dotless_shorter (some : segments ≠ []) :
    (dotless segments).length + segments.countP isDots < (spell segments).length := by
  induction segments with
  | nil => exact absurd rfl some
  | cons first rest ih =>
    rw [dotless, List.countP_cons, spell_cons]
    cases dots : isDots first with
    | false =>
      have shorter := remove_dots_shorter rest [first]
      simp [size] at shorter ⊢
      omega
    | true =>
      have long : 0 < first.length := by
        cases first with
        | nil => cases dots
        | cons c cs => simp
      cases rest with
      | nil => simpa [dotless, spell] using long
      | cons second more =>
        have later := ih (List.cons_ne_nil _ _)
        simp at later ⊢
        omega

end Dots

/-- A path that resolution leaves as it is. -/
structure Straight (path : String) : Prop where
  oneSlash : ∀ rest, path.toList ≠ '/' :: '/' :: rest
  noDots : ∀ segment ∈ pieces (· = '/') path.toList, isDots segment = false

def Reference.at (base : Reference) (path : String) : Reference :=
  { base with path := path, query := none, fragment := none }

section Paths
variable {path : String} {cs : List Char}

theorem without_dots_shorter (path : String) : (withoutDots path).toList.length +
    (pieces (· = '/') path.toList).countP isDots ≤ path.toList.length := by
  have shorter := dotless_shorter (pieces_ne_nil (p := (· = '/')) path.toList)
  rw [spell_pieces, List.length_cons] at shorter
  rw [withoutDots, String.toList_ofList]
  exact Nat.le_of_lt_succ shorter

example : withoutDots "/a/b/c/./../../g" = "/a/g" := by decide

theorem straight_without_dots (rooted : path.toList = '/' :: cs)
    (straight : ∀ segment ∈ pieces (· = '/') path.toList, isDots segment = false) :
    withoutDots path = path := by
  rw [rooted, pieces_separator rfl] at straight
  obtain ⟨-, others⟩ := List.forall_mem_cons.mp straight
  rw [← String.toList_inj, withoutDots, String.toList_ofList, rooted, pieces_separator rfl, dotless,
    if_neg (by simp [isDots]), remove_dots_straight others, ← spell_pieces cs]
  simp [spell, List.flatMap_def]

theorem rooted_no_scheme (rooted : path.toList = '/' :: cs) :
    cutScheme path.toList = (none, path.toList) := by
  rw [rooted]
  rfl

theorem reference_of_rooted (rooted : path.toList = '/' :: cs) (one : ∀ rest, cs ≠ '/' :: rest)
    (plain : ∀ c ∈ path.toList, c ≠ '?' ∧ c ≠ '#') :
    Reference.ofText path = ⟨none, none, path, none, none⟩ := by
  have authority : cutAuthority path.toList = (none, path.toList) := by
    rw [rooted]
    cases cs with
    | nil => rfl
    | cons c cs =>
      have other : c ≠ '/' := by
        rintro rfl
        exact one cs rfl
      simp [cutAuthority, other]
  have beforeFragment : path.toList.takeWhile (· ≠ '#') = path.toList :=
    (take_whole fun c member => decide_eq_true (plain c member).2).1
  have beforeQuery : path.toList.takeWhile (· ≠ '?') = path.toList :=
    (take_whole fun c member => decide_eq_true (plain c member).1).1
  have noQuery : after? '?' path.toList = none := after_none fun c member => (plain c member).1
  have noFragment : after? '#' path.toList = none := after_none fun c member => (plain c member).2
  simp only [Reference.ofText, rooted_no_scheme rooted, authority, beforeFragment, beforeQuery,
    noQuery, noFragment, Option.map_none, String.ofList_toList]

/-- With two slashes at its start a path loses its first segment to the authority. -/
theorem reference_of_slashes {rest : List Char} (rooted : path.toList = '/' :: '/' :: rest) :
    (Reference.ofText path).scheme = none ∧ (Reference.ofText path).authority.isSome ∧
      (Reference.ofText path).path.toList.length < path.toList.length := by
  have authority : cutAuthority path.toList =
      (some (rest.takeWhile (!endsName ·)), rest.dropWhile (!endsName ·)) := by
    rw [rooted]
    rfl
  simp only [Reference.ofText, rooted_no_scheme rooted, authority, Option.map_none,
    Option.map_some, Option.isSome_some, String.toList_ofList, true_and]
  have part := ((List.takeWhile_sublist (· ≠ '?')).trans (List.takeWhile_sublist (· ≠ '#'))).trans
    (List.dropWhile_sublist (!endsName ·) (l := rest))
  have short := part.length_le
  rw [rooted, List.length_cons, List.length_cons]
  omega

/-- A path from the root refers to itself on the host of any page just when it is straight. -/
theorem refers_to_itself_iff (base : Reference) (rooted : path.toList = '/' :: cs)
    (plain : ∀ c ∈ path.toList, c ≠ '?' ∧ c ≠ '#') :
    base.resolve (.ofText path) = base.at path ↔ Straight path := by
  have nonempty : path ≠ "" := by
    rintro rfl
    cases rooted
  have head : path.toList.head? = some '/' := by rw [rooted]; rfl
  have shorter := without_dots_shorter
  constructor
  · intro resolved
    have path_eq : (base.resolve (.ofText path)).path = path := by rw [resolved]; rfl
    have one : ∀ rest, cs ≠ '/' :: rest := by
      rintro rest rfl
      obtain ⟨scheme, authority, short⟩ := reference_of_slashes rooted
      rw [Reference.resolve, scheme, if_neg (by simp), if_pos authority] at path_eq
      have less := shorter (Reference.ofText path).path
      simp only at path_eq
      rw [path_eq] at less
      omega
    refine ⟨fun rest slashes => one rest (by simpa [rooted] using slashes), ?_⟩
    rw [reference_of_rooted rooted one plain] at path_eq
    simp only [Reference.resolve, Reference.joined, nonempty, head, if_true, if_false,
      Option.isSome_none, Bool.false_eq_true] at path_eq
    have none := shorter path
    rw [path_eq] at none
    have count : (pieces (· = '/') path.toList).countP isDots = 0 := by omega
    exact fun segment member =>
      (Bool.not_eq_true _).mp (List.countP_eq_zero.mp count segment member)
  · intro straight
    have one : ∀ rest, cs ≠ '/' :: rest := by
      rintro rest rfl
      exact straight.oneSlash rest rooted
    rw [reference_of_rooted rooted one plain]
    simp [Reference.resolve, Reference.joined, nonempty, head, Reference.at,
      straight_without_dots rooted straight.noDots]

end Paths
end CommandGateway.Net
