import CommandGateway.Json.Embedded
import CommandGateway.Proofs.Json.Members
import Mathlib.Algebra.Group.Int.Defs

/- What reading a text goes through, and what it yields. Items and members are taken in the order in
   which they stand; the members of an object are then put in order, the last of several with one
   key counting. -/
namespace CommandGateway.Json

/-- The items from a place in an array on, up to what stands behind it. -/
inductive ItemsOf {α : Type} (item : Reader α) : (first : Bool) → Bytes → List α → Bytes → Prop
  | close {first : Bool} {b rest : Bytes} (ends : nextItem first b = .ok (.close rest)) :
      ItemsOf item first b [] rest
  | entry {first : Bool} {b r t rest : Bytes} {v : α} {vs : List α}
      (here : nextItem first b = .ok (.entry r)) (value : item r = .ok (v, t))
      (others : ItemsOf item false t vs rest) : ItemsOf item first b (v :: vs) rest

inductive MembersOf (item : Reader Value) : (first : Bool) → Bytes → List Member → Bytes → Prop
  | close {first : Bool} {b rest : Bytes} (ends : nextKey first b = .ok (.close rest)) :
      MembersOf item first b [] rest
  | entry {first : Bool} {b r t u rest : Bytes} {key : String} {v : Value} {ms : List Member}
      (here : nextKey first b = .ok (.entry r)) (named : readKey r = .ok (key, t))
      (value : item t = .ok (v, u)) (others : MembersOf item false u ms rest) :
      MembersOf item first b ((key, v) :: ms) rest

inductive ObjectOf (text : Bytes → Except Fault Value) (item : Reader Value) :
    Bytes → Value → Bytes → Prop
  | members {b rest : Bytes} (written : List Member) (listed : MembersOf item true b written rest)
      (apart : ∀ m ∈ written.head?, m.1 ≠ embedKey) :
      ObjectOf text item b (.object (sortMembers written)) rest
  | embedded {b r t u rest w : Bytes} {s : String} {v : Value}
      (here : nextKey true b = .ok (.entry r)) (named : readKey r = .ok (embedKey, t))
      (quoted : skipBlank t = 0x22 :: w) (spelled : readText w = .ok (s, u))
      (inner : text (Text.utf8 s) = .ok v) (ends : endEmbedded v u = .ok (v, rest)) :
      ObjectOf text item b v rest

section Containers
variable {α : Type} {b rest : Bytes} {text : Bytes → Except Fault Value} {item : Reader Value}

theorem read_items {item : Reader α} {done vs : List α} {fuel : Bytes}
    (read : readItems item done b fuel = .ok (vs, rest)) :
    ∃ later, vs = done.reverse ++ later ∧ ItemsOf item done.isEmpty b later rest := by
  induction fuel generalizing done b with
  | nil => cases read
  | cons _ fuel ih =>
    simp only [readItems] at read
    split at read
    · cases read
    · rename_i r ends
      cases read
      exact ⟨[], by simp, .close ends⟩
    · rename_i r here
      split at read
      · cases read
      · rename_i v t value
        obtain ⟨later, rfl, others⟩ := ih read
        exact ⟨v :: later, by simp, .entry here value others⟩

theorem items_read {item : Reader α} {first : Bool} {vs : List α}
    (listed : ItemsOf item first b vs rest) {done : List α} (start : done.isEmpty = first)
    {fuel : Bytes} (enough : vs.length < fuel.length) :
    readItems item done b fuel = .ok (done.reverse ++ vs, rest) := by
  induction listed generalizing done fuel with
  | close ends =>
    obtain ⟨f, fuel, rfl⟩ := List.exists_cons_of_length_pos (Nat.zero_lt_of_lt enough)
    simp [readItems, start, ends]
  | entry here value others ih =>
    obtain ⟨f, fuel, rfl⟩ := List.exists_cons_of_length_pos (Nat.zero_lt_of_lt enough)
    simp only [readItems, start, here, value]
    rw [ih rfl (Nat.lt_of_succ_lt_succ enough)]
    simp

theorem read_members {done ms : List Member} {fuel : Bytes}
    (read : readMembers item done b fuel = .ok (ms, rest)) :
    ∃ written, ms = written.foldl (fun done m => insert m done) done ∧
      MembersOf item false b written rest := by
  induction fuel generalizing done b with
  | nil => cases read
  | cons _ fuel ih =>
    simp only [readMembers] at read
    split at read
    · cases read
    · rename_i r ends
      cases read
      exact ⟨[], rfl, .close ends⟩
    · rename_i r here
      split at read
      · cases read
      · rename_i key t named
        split at read
        · cases read
        · rename_i v u value
          obtain ⟨written, rfl, others⟩ := ih read
          exact ⟨(key, v) :: written, rfl, .entry here named value others⟩

theorem members_read {written : List Member} (listed : MembersOf item false b written rest)
    (done : List Member) {fuel : Bytes} (enough : written.length < fuel.length) :
    readMembers item done b fuel =
      .ok (written.foldl (fun done m => insert m done) done, rest) := by
  generalize first : false = start at listed
  induction listed generalizing done fuel with
  | close ends =>
    obtain ⟨f, fuel, rfl⟩ := List.exists_cons_of_length_pos (Nat.zero_lt_of_lt enough)
    subst first
    simp [readMembers, ends]
  | entry here named value others ih =>
    obtain ⟨f, fuel, rfl⟩ := List.exists_cons_of_length_pos (Nat.zero_lt_of_lt enough)
    subst first
    simp only [readMembers, here, named, value, List.foldl_cons]
    exact ih _ (Nat.lt_of_succ_lt_succ enough) rfl

theorem end_embedded {v w : Value} (ends : endEmbedded v b = .ok (w, rest)) : w = v := by
  simp only [endEmbedded] at ends
  split at ends
  · cases ends
  · split at ends
    · cases ends
      rfl
    · cases ends

theorem read_embedded {v : Value} (read : readEmbedded text b = .ok (v, rest)) :
    ∃ w s u, skipBlank b = 0x22 :: w ∧ readText w = .ok (s, u) ∧ text (Text.utf8 s) = .ok v ∧
      endEmbedded v u = .ok (v, rest) := by
  simp only [readEmbedded] at read
  split at read
  · cases read
  · rename_i c w here
    split at read
    · rename_i quote
      subst quote
      split at read
      · cases read
      · rename_i s u spelled
        split at read
        · cases read
        · rename_i inner held
          obtain rfl := end_embedded read
          exact ⟨w, s, u, here, spelled, held, read⟩
    · -- whatever stands there is refused
      simp only [refuse] at read
      split at read
      · cases read
      · split at read
        · cases read
        · split at read <;> cases read

theorem read_object {v : Value} {fuel : Bytes}
    (read : readObject text item b fuel = .ok (v, rest)) : ObjectOf text item b v rest := by
  simp only [readObject] at read
  split at read
  · cases read
  · rename_i r ends
    cases read
    exact .members [] (.close ends) (by simp)
  · rename_i r here
    split at read
    · cases read
    · rename_i key t named
      split at read
      · rename_i own
        subst own
        obtain ⟨w, s, u, quoted, spelled, inner, ends⟩ := read_embedded read
        exact .embedded here named quoted spelled inner ends
      · rename_i apart
        split at read
        · cases read
        · rename_i v u value
          split at read
          · cases read
          · rename_i ms z listed
            cases read
            obtain ⟨written, rfl, others⟩ := read_members listed
            exact .members ((key, v) :: written) (.entry here named value others) (by simpa)

end Containers

inductive Numeric : Value → Prop
  | int (n : Int) (least : -2 ^ 63 ≤ n) (most : n < 2 ^ 64) : Numeric (.int n)
  | float (bits : UInt64) : Numeric (.float bits)

inductive Scalar : Value → Prop
  | null : Scalar .null
  | bool (b : Bool) : Scalar (.bool b)
  | int (n : Int) (least : -2 ^ 63 ≤ n) (most : n < 2 ^ 64) : Scalar (.int n)
  | float (bits : UInt64) : Scalar (.float bits)
  | string (s : String) : Scalar (.string s)

/-- What reading yields. The members of objects are in order, and none of them has only the key of
    an embedded value. -/
inductive Tidy : Value → Prop
  | scalar {v : Value} (scalar : Scalar v) : Tidy v
  | array (items : List Value) (all : ∀ v ∈ items, Tidy v) : Tidy (.array items)
  | object (members : List Member) (sorted : Ascending members)
      (apart : members = [] ∨ ∃ m ∈ members, m.1 ≠ embedKey) (all : ∀ m ∈ members, Tidy m.2) :
      Tidy (.object members)

section Scalars
variable {negative : Bool} {b rest : Bytes} {v : Value}

theorem absorb_le {n : Nat} (ds : Bytes) (small : n ≤ maxSignificand) :
    (absorb n ds).1 ≤ maxSignificand := by
  induction ds generalizing n with
  | nil => exact small
  | cons d ds ih =>
    simp only [absorb]
    split
    · rename_i fits
      exact ih fits
    · exact small

theorem integer_numeric {n : Nat} (small : n ≤ maxSignificand) : Numeric (integer negative n) := by
  have bound : n < 2 ^ 64 := Nat.lt_of_le_of_lt small (by decide)
  simp only [integer]
  split
  · split
    · rename_i fits
      have most : n ≤ 2 ^ 63 := fits.2
      exact .int _ (by omega) (by omega)
    · exact .float _
  · exact .int _ (by omega) (by omega)

theorem fraction_numeric {significand : Nat} {e : Int}
    (read : fraction negative significand e b = .ok (v, rest)) : Numeric v := by
  simp only [fraction] at read
  split at read
  · cases read
    exact .float _
  · cases read

theorem exponent_numeric {significand : Nat} {base : Int}
    (read : readExponent negative significand base b = .ok (v, rest)) : Numeric v := by
  simp only [readExponent] at read
  -- the sign makes no difference here
  split at read
  all_goals
    simp only at read
    split at read
    · split at read <;> cases read
    · split at read
      · exact fraction_numeric read
      · split at read
        · cases read
        · cases read
          exact .float _

theorem point_numeric {significand : Nat} {base : Int}
    (read : readFraction negative significand base b = .ok (v, rest)) : Numeric v := by
  simp only [readFraction] at read
  split at read
  · cases read
  · split at read
    · exact exponent_numeric read
    · exact exponent_numeric read
    · exact fraction_numeric read

theorem tail_numeric {n unused : Nat} (small : n ≤ maxSignificand)
    (read : readTail negative n unused b = .ok (v, rest)) : Numeric v := by
  unfold readTail at read
  split at read
  · exact point_numeric read
  · exact exponent_numeric read
  · exact exponent_numeric read
  · split at read
    · cases read
      exact integer_numeric small
    · exact fraction_numeric read

theorem number_numeric (read : readNumber negative b = .ok (v, rest)) : Numeric v := by
  unfold readNumber at read
  split at read
  · cases read
  · split at read
    · split at read
      · exact tail_numeric (Nat.zero_le _) read
      · cases read
    · split at read
      · rename_i c r _ _
        have small := absorb_le (n := 0) (c :: r.takeWhile isDigit) (Nat.zero_le _)
        generalize absorb 0 (c :: r.takeWhile isDigit) = taken at read small
        obtain ⟨n, unused⟩ := taken
        exact tail_numeric small read
      · cases read

theorem numeric_scalar (numeric : Numeric v) : Scalar v := by
  cases numeric with
  | int n least most => exact .int n least most
  | float bits => exact .float bits

theorem word_read {α : Type} {value a : α} {letters : Bytes}
    (read : readWord value letters b = .ok (a, rest)) : a = value := by
  induction letters generalizing b with
  | nil =>
    cases read
    rfl
  | cons l ls ih =>
    cases b with
    | nil => cases read
    | cons c t =>
      simp only [readWord] at read
      split at read
      · exact ih read
      · cases read

theorem read_scalar {c : UInt8} (read : readScalar c b = .ok (v, rest)) : Scalar v := by
  simp only [readScalar] at read
  split at read
  · exact word_read read ▸ .null
  · split at read
    · exact word_read read ▸ .bool true
    · split at read
      · exact word_read read ▸ .bool false
      · split at read
        · exact numeric_scalar (number_numeric read)
        · split at read
          · exact numeric_scalar (number_numeric read)
          · split at read
            · split at read
              · cases read
                exact .string _
              · cases read
            · cases read

end Scalars

section Values
variable {b rest : Bytes} {v : Value} {text : Bytes → Except Fault Value} {item : Reader Value}

theorem items_forall {α : Type} {item : Reader α} {P : α → Prop} {first : Bool} {vs : List α}
    (keeps : ∀ b v rest, item b = .ok (v, rest) → P v) (listed : ItemsOf item first b vs rest) :
    ∀ v ∈ vs, P v := by
  induction listed with
  | close => simp
  | entry here value others ih => exact List.forall_mem_cons.mpr ⟨keeps _ _ _ value, ih⟩

theorem members_forall {P : Value → Prop} {first : Bool} {ms : List Member}
    (keeps : ∀ b v rest, item b = .ok (v, rest) → P v) (listed : MembersOf item first b ms rest) :
    ∀ m ∈ ms, P m.2 := by
  induction listed with
  | close => simp
  | entry here named value others ih => exact List.forall_mem_cons.mpr ⟨keeps _ _ _ value, ih⟩

theorem sort_apart {written : List Member} (apart : ∀ m ∈ written.head?, m.1 ≠ embedKey) :
    sortMembers written = [] ∨ ∃ m ∈ sortMembers written, m.1 ≠ embedKey := by
  cases written with
  | nil => exact Or.inl rfl
  | cons m ms =>
    have other : m.1 ≠ embedKey := apart m (by simp)
    have some : (lookup m.1 (sortMembers (m :: ms))).isSome := by
      rw [lookup_sort, List.reverse_cons, lookup_append]
      cases lookup m.1 ms.reverse <;> simp [lookup]
    obtain ⟨v, found⟩ := Option.isSome_iff_exists.mp some
    exact Or.inr ⟨_, mem_of_lookup found, other⟩

theorem object_tidy (inner : ∀ b v, text b = .ok v → Tidy v)
    (items : ∀ b v rest, item b = .ok (v, rest) → Tidy v) (read : ObjectOf text item b v rest) :
    Tidy v := by
  cases read with
  | members written listed apart =>
    exact .object _ (sort_ascending _) (sort_apart apart)
      fun m member => members_forall items listed m (mem_sort member)
  | embedded _ _ _ _ held _ => exact inner _ _ held

inductive ValueOf (text : Bytes → Except Fault Value) (inner : Option (Reader Value)) :
    Bytes → Value → Bytes → Prop
  | scalar {b t rest : Bytes} {c : UInt8} {v : Value} (here : skipBlank b = c :: t)
      (plain : c ≠ 0x5b ∧ c ≠ 0x7b) (read : readScalar c t = .ok (v, rest)) :
      ValueOf text inner b v rest
  | array {b t rest : Bytes} {item : Reader Value} {vs : List Value}
      (here : skipBlank b = 0x5b :: t) (nests : inner = some item)
      (listed : ItemsOf item true t vs rest) : ValueOf text inner b (.array vs) rest
  | object {b t rest : Bytes} {item : Reader Value} {v : Value} (here : skipBlank b = 0x7b :: t)
      (nests : inner = some item) (listed : ObjectOf text item t v rest) :
      ValueOf text inner b v rest

theorem read_with {inner : Option (Reader Value)} (read : readWith text inner b = .ok (v, rest)) :
    ValueOf text inner b v rest := by
  simp only [readWith] at read
  split at read
  · cases read
  · rename_i c t here
    split at read
    · rename_i opens
      split at read
      · cases read
      · rename_i item
        split at read
        · rename_i bracket
          subst bracket
          split at read
          · rename_i vs z items
            cases read
            obtain ⟨later, rfl, listed⟩ := read_items items
            exact .array here rfl listed
          · cases read
        · rename_i brace
          obtain rfl := opens.resolve_left brace
          exact .object here rfl (read_object read)
    · rename_i plain
      exact .scalar here (not_or.mp plain) read

theorem value_tidy (inner : ∀ b v, text b = .ok v → Tidy v) {depth : Nat}
    (read : readValue text depth b = .ok (v, rest)) : Tidy v := by
  induction depth generalizing b v rest with
  | zero =>
    cases read_with read with
    | scalar _ _ scalar => exact .scalar (read_scalar scalar)
    | array _ nests | object _ nests => cases nests
  | succ depth ih =>
    cases read_with read with
    | scalar _ _ scalar => exact .scalar (read_scalar scalar)
    | array _ nests listed =>
      cases nests
      exact .array _ (items_forall (fun _ _ _ => ih) listed)
    | object _ nests listed =>
      cases nests
      exact object_tidy inner (fun _ _ _ => ih) listed

theorem whole_read {α : Type} {reader : Reader α} {a : α} (read : whole reader b = .ok a) :
    ∃ rest, reader b = .ok (a, rest) ∧ skipBlank rest = [] := by
  simp only [whole] at read
  split at read
  · cases read
  · rename_i a' rest here
    split at read
    · rename_i ends
      cases read
      exact ⟨rest, here, ends⟩
    · cases read

theorem whole_iff {α : Type} {reader : Reader α} {a : α} :
    whole reader b = .ok a ↔ ∃ rest, reader b = .ok (a, rest) ∧ skipBlank rest = [] := by
  refine ⟨whole_read, ?_⟩
  rintro ⟨rest, read, ends⟩
  simp only [whole, read, ends]

theorem nested_tidy {fuel : Bytes} (read : readNested fuel b = .ok v) : Tidy v := by
  induction fuel generalizing b v with
  | nil => cases read
  | cons _ fuel ih =>
    obtain ⟨rest, value, -⟩ := whole_read read
    exact value_tidy (fun _ _ => ih) value

theorem read_tidy (held : read b = .ok v) : Tidy v := nested_tidy held

end Values
end CommandGateway.Json
