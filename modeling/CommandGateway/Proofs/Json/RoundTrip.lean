import CommandGateway.Proofs.Json.Embedded
import CommandGateway.Proofs.Json.Spelling

/- Values written and read again. What comes back is the value with the members of its objects in
   order, provided that it holds no fraction, nests within what the reader allows and has no object
   that is written with the key of an embedded value first. -/
namespace CommandGateway.Json

mutual
def Value.depth : Value → Nat
  | .array items => itemsDepth items + 1
  | .object members => membersDepth members + 1
  | .null => 0
  | .bool _ => 0
  | .int _ => 0
  | .float _ => 0
  | .string _ => 0

def itemsDepth : List Value → Nat
  | [] => 0
  | v :: vs => max v.depth (itemsDepth vs)

def membersDepth : List Member → Nat
  | [] => 0
  | (_, v) :: ms => max v.depth (membersDepth ms)
end

def IsFloat (v : Value) : Prop := ∃ bits, v = .float bits

/-- A value that reads back when containers may nest `depth` deep. -/
inductive Writable : (depth : Nat) → Value → Prop
  | scalar {depth : Nat} {v : Value} (scalar : Scalar v) (exact : ¬ IsFloat v) : Writable depth v
  | array {depth : Nat} {items : List Value} (all : ∀ v ∈ items, Writable depth v) :
      Writable (depth + 1) (.array items)
  | object {depth : Nat} {members : List Member} (apart : ∀ m ∈ members.head?, m.1 ≠ embedKey)
      (all : ∀ m ∈ members, Writable depth m.2) : Writable (depth + 1) (.object members)

theorem string_writable {depth : Nat} (text : String) : Writable depth (.string text) :=
  .scalar (.string text) (by simp [IsFloat])

theorem null_writable {depth : Nat} : Writable depth .null := .scalar .null (by simp [IsFloat])

theorem item_texts_eq (vs : List Value) : itemTexts vs = vs.map Value.render := by
  induction vs with
  | nil => rfl
  | cons v vs ih => simp only [itemTexts, ih, List.map_cons]

theorem member_texts_eq (ms : List Member) :
    memberTexts ms = ms.map fun m => quote m.1 ++ ":" ++ m.2.render := by
  induction ms with
  | nil => rfl
  | cons m ms ih => simp only [memberTexts, ih, List.map_cons]

theorem sorted_items_eq (vs : List Value) : sortedItems vs = vs.map Value.sorted := by
  induction vs with
  | nil => rfl
  | cons v vs ih => simp only [sortedItems, ih, List.map_cons]

theorem sorted_members_eq (ms : List Member) :
    sortedMembers ms = ms.map fun m => (m.1, m.2.sorted) := by
  induction ms with
  | nil => rfl
  | cons m ms ih => simp only [sortedMembers, ih, List.map_cons]

section Texts
variable {depth : Nat} {v : Value} {rest : Bytes}

def Opens (b : Bytes) : Prop := ∃ c t, b = c :: t ∧ isBlank c = false ∧ c ≠ 0x5d

theorem skip_blank {c : UInt8} (own : isBlank c = false) (t : Bytes) :
    skipBlank (c :: t) = c :: t := by
  simp [skipBlank, own]

theorem digit_not_blank {c : UInt8} (sign : c = 0x2d ∨ isDigit c) : isBlank c = false := by
  rcases sign with rfl | digit
  · rfl
  · by_contra blank
    simp only [isBlank, Bool.not_eq_false, Bool.or_eq_true, decide_eq_true_eq] at blank
    rcases blank with ((rfl | rfl) | rfl) | rfl <;> cases digit

theorem digit_ne {c d : UInt8} (sign : c = 0x2d ∨ isDigit c) (other : isDigit d = false)
    (apart : d ≠ 0x2d) : c ≠ d := by
  rintro rfl
  exact sign.elim apart (by simp [other])

theorem stops_end : Stops [] := by simp [Stops]

theorem render_opens (writable : Writable depth v) : Opens (Text.utf8 v.render) := by
  cases writable with
  | scalar scalar exact =>
    cases scalar with
    | null => exact ⟨_, _, rfl, rfl, by decide⟩
    | bool b => cases b <;> exact ⟨_, _, rfl, rfl, by decide⟩
    | int n least most =>
      obtain ⟨c, t, spelt, sign, -⟩ := int_read least most stops_end
      rw [List.append_nil] at spelt
      exact ⟨c, t, spelt, digit_not_blank sign, digit_ne sign rfl (by decide)⟩
    | float bits => exact absurd ⟨bits, rfl⟩ exact
    | string s => exact ⟨_, _, utf8_quote s, rfl, by decide⟩
  | array all =>
    have mark : Text.utf8 "[" = [0x5b] := rfl
    simp only [Value.render, Text.utf8_append, mark]
    exact ⟨_, _, rfl, rfl, by decide⟩
  | object apart all =>
    have mark : Text.utf8 "\x7b" = [0x7b] := rfl
    simp only [Value.render, Text.utf8_append, mark]
    exact ⟨_, _, rfl, rfl, by decide⟩

theorem plain_read {text : Bytes → Except Fault Value} {inner : Option (Reader Value)}
    {c : UInt8} {t : Bytes} (own : isBlank c = false) (list : c ≠ 0x5b) (object : c ≠ 0x7b) :
    readWith text inner (c :: t) = readScalar c t := by
  simp only [readWith, skip_blank own, list, object, or_self, if_false]

theorem scalar_read {text : Bytes → Except Fault Value} {inner : Option (Reader Value)}
    (scalar : Scalar v) (exact : ¬ IsFloat v) (stops : Stops rest) :
    readWith text inner (Text.utf8 v.render ++ rest) = .ok (v, rest) := by
  cases scalar with
  | null => rfl
  | bool b => cases b <;> rfl
  | int n least most =>
    obtain ⟨c, t, spelt, sign, read⟩ := int_read least most stops
    have blank := digit_not_blank sign
    simp only [Value.render, spelt, plain_read blank (digit_ne sign rfl (by decide))
      (digit_ne sign rfl (by decide)), read]
  | float bits => exact absurd ⟨bits, rfl⟩ exact
  | string s =>
    obtain ⟨written, spelt, read⟩ := text_read s rest
    simp only [Value.render, spelt]
    rw [plain_read rfl (by decide) (by decide)]
    have text : isDigit 0x22 = false := rfl
    simp [readScalar, text, read]

end Texts

section Commas
variable {rest : Bytes}

def later (texts : List String) : Bytes := texts.flatMap fun s => 0x2c :: Text.utf8 s

theorem utf8_commas (s : String) (texts : List String) :
    Text.utf8 (",".intercalate (s :: texts)) = Text.utf8 s ++ later texts := by
  induction texts generalizing s with
  | nil => simp [later]
  | cons t texts ih =>
    have mark : Text.utf8 "," = [0x2c] := rfl
    rw [String.intercalate_cons_cons, Text.utf8_append, Text.utf8_append, ih, mark]
    simp [later]

theorem later_length (texts : List String) : texts.length ≤ (later texts).length := by
  induction texts with
  | nil => simp
  | cons s texts ih =>
    simp only [later, List.flatMap_cons, List.length_append, List.length_cons] at ih ⊢
    omega

theorem later_stops (texts : List String) {c : UInt8} (closing : c = 0x5d ∨ c = 0x7d)
    (rest : Bytes) : Stops (later texts ++ c :: rest) := by
  cases texts with
  | nil =>
    intro d first
    cases first
    exact Or.inr closing
  | cons s texts =>
    intro d first
    cases first
    exact Or.inl rfl

end Commas

section Containers
variable {item : Reader Value} {rest : Bytes}

def ReadsBack (item : Reader Value) (v : Value) : Prop :=
  Opens (Text.utf8 v.render) ∧
    ∀ rest, Stops rest → item (Text.utf8 v.render ++ rest) = .ok (v.sorted, rest)

theorem first_item {b t : Bytes} (opens : Opens b) :
    nextItem true (b ++ t) = .ok (.entry (b ++ t)) := by
  obtain ⟨c, r, rfl, own, apart⟩ := opens
  simp only [nextItem, List.cons_append, skip_blank own, if_neg apart, if_true]

theorem later_item {b t : Bytes} (opens : Opens b) :
    nextItem false (0x2c :: b ++ t) = .ok (.entry (b ++ t)) := by
  obtain ⟨c, r, rfl, own, apart⟩ := opens
  have comma : isBlank 0x2c = false := rfl
  have more : ¬ (0x2c : UInt8) = 0x5d := by decide
  simp only [nextItem, List.cons_append, skip_blank own, skip_blank comma, if_neg more,
    if_neg apart, if_true, Bool.false_eq_true, if_false]

theorem later_items {vs : List Value} (each : ∀ v ∈ vs, ReadsBack item v) :
    ItemsOf item false (later (itemTexts vs) ++ 0x5d :: rest) (sortedItems vs) rest := by
  induction vs with
  | nil => exact .close rfl
  | cons v vs ih =>
    obtain ⟨⟨opens, read⟩, others⟩ := List.forall_mem_cons.mp each
    have stops := later_stops (itemTexts vs) (Or.inl rfl) rest
    have here : nextItem false (later (itemTexts (v :: vs)) ++ 0x5d :: rest) =
        .ok (.entry (Text.utf8 v.render ++ (later (itemTexts vs) ++ 0x5d :: rest))) := by
      rw [← later_item opens]
      simp [later, itemTexts]
    exact .entry here (read _ stops) (ih others)

theorem items_of_text {vs : List Value} (each : ∀ v ∈ vs, ReadsBack item v) :
    ItemsOf item true (Text.utf8 (",".intercalate (itemTexts vs)) ++ 0x5d :: rest)
      (sortedItems vs) rest := by
  cases vs with
  | nil => exact .close rfl
  | cons v vs =>
    obtain ⟨⟨opens, read⟩, others⟩ := List.forall_mem_cons.mp each
    have stops := later_stops (itemTexts vs) (Or.inl rfl) rest
    rw [itemTexts, utf8_commas, List.append_assoc]
    exact .entry (first_item opens) (read _ stops) (later_items others)

theorem key_read (key : String) (t : Bytes) :
    ∃ written, Text.utf8 (quote key) ++ 0x3a :: t = 0x22 :: written ∧
      readKey written = .ok (key, t) := by
  obtain ⟨written, spelt, read⟩ := text_read key (0x3a :: t)
  have colon : readColon (0x3a :: t) = .ok t := rfl
  exact ⟨written, spelt, by simp only [readKey, read, colon]⟩

theorem utf8_member (key : String) (v : Value) (t : Bytes) :
    Text.utf8 (quote key ++ ":" ++ v.render) ++ t =
      Text.utf8 (quote key) ++ 0x3a :: (Text.utf8 v.render ++ t) := by
  have mark : Text.utf8 ":" = [0x3a] := rfl
  simp only [Text.utf8_append, mark, List.append_assoc, List.cons_append, List.nil_append]

theorem later_members {ms : List Member} (each : ∀ m ∈ ms, ReadsBack item m.2) :
    MembersOf item false (later (memberTexts ms) ++ 0x7d :: rest) (sortedMembers ms) rest := by
  induction ms with
  | nil => exact .close rfl
  | cons m ms ih =>
    obtain ⟨key, v⟩ := m
    obtain ⟨⟨-, read⟩, others⟩ := List.forall_mem_cons.mp each
    have stops := later_stops (memberTexts ms) (Or.inr rfl) rest
    obtain ⟨written, spelt, named⟩ :=
      key_read key (Text.utf8 v.render ++ (later (memberTexts ms) ++ 0x7d :: rest))
    have here : nextKey false (later (memberTexts ((key, v) :: ms)) ++ 0x7d :: rest) =
        .ok (.entry written) := by
      have shape : later (memberTexts ((key, v) :: ms)) ++ 0x7d :: rest =
          0x2c :: 0x22 :: written := by
        rw [← spelt, ← utf8_member]
        simp [later, memberTexts]
      rw [shape]
      rfl
    exact .entry here named (read _ stops) (ih others)

theorem first_member (key : String) {v : Value} (ms : List Member) (first : ReadsBack item v)
    (rest : Bytes) :
    ∃ written t, Text.utf8 (",".intercalate (memberTexts ((key, v) :: ms))) ++ 0x7d :: rest =
        0x22 :: written ∧ readKey written = .ok (key, t) ∧
      item t = .ok (v.sorted, later (memberTexts ms) ++ 0x7d :: rest) := by
  have stops := later_stops (memberTexts ms) (Or.inr rfl) rest
  obtain ⟨written, spelt, named⟩ :=
    key_read key (Text.utf8 v.render ++ (later (memberTexts ms) ++ 0x7d :: rest))
  refine ⟨written, _, ?_, named, first.2 _ stops⟩
  rw [memberTexts, utf8_commas, List.append_assoc, utf8_member, spelt]

end Containers

section Values
variable {depth : Nat} {v : Value} {rest : Bytes} {text : Bytes → Except Fault Value}

theorem scalar_sorted (scalar : Scalar v) : v.sorted = v := by
  cases scalar <;> simp [Value.sorted]

/-- There are no more entries than bytes, so the bytes are fuel enough. -/
theorem commas_fit (texts : List String) (c d : UInt8) (rest : Bytes) :
    texts.length < (c :: (Text.utf8 (",".intercalate texts) ++ d :: rest)).length := by
  cases texts with
  | nil => simp
  | cons s texts =>
    have bound := later_length texts
    rw [utf8_commas]
    simp only [List.length_cons, List.length_append]
    omega

theorem array_read {items : List Value} (each : ∀ v ∈ items, ReadsBack (readValue text depth) v)
    (rest : Bytes) : readValue text (depth + 1) (Text.utf8 (Value.array items).render ++ rest) =
      .ok (.array (sortedItems items), rest) := by
  have spelt : Text.utf8 (Value.array items).render ++ rest =
      0x5b :: (Text.utf8 (",".intercalate (itemTexts items)) ++ 0x5d :: rest) := by
    have opening : Text.utf8 "[" = [0x5b] := rfl
    have closing : Text.utf8 "]" = [0x5d] := rfl
    simp only [Value.render, Text.utf8_append, opening, closing, List.append_assoc,
      List.cons_append, List.nil_append]
  have enough := commas_fit (itemTexts items) 0x5b 0x5d rest
  have same : (itemTexts items).length = (sortedItems items).length := by
    simp [item_texts_eq, sorted_items_eq]
  have own : isBlank 0x5b = false := rfl
  rw [spelt]
  simp only [readValue, readWith, skip_blank own, true_or, if_true]
  rw [items_read (items_of_text each) rfl (same ▸ enough)]
  rfl

theorem object_read {members : List Member} (apart : ∀ m ∈ members.head?, m.1 ≠ embedKey)
    (each : ∀ m ∈ members, ReadsBack (readValue text depth) m.2) (rest : Bytes) :
    readValue text (depth + 1) (Text.utf8 (Value.object members).render ++ rest) =
      .ok (.object (sortMembers (sortedMembers members)), rest) := by
  have spelt : Text.utf8 (Value.object members).render ++ rest =
      0x7b :: (Text.utf8 (",".intercalate (memberTexts members)) ++ 0x7d :: rest) := by
    have opening : Text.utf8 "\x7b" = [0x7b] := rfl
    have closing : Text.utf8 "\x7d" = [0x7d] := rfl
    simp only [Value.render, Text.utf8_append, opening, closing, List.append_assoc,
      List.cons_append, List.nil_append]
  have own : isBlank 0x7b = false := rfl
  have brace : ¬ (0x7b : UInt8) = 0x5b := by decide
  rw [spelt]
  cases members with
  | nil => rfl
  | cons m ms =>
    obtain ⟨key, v⟩ := m
    obtain ⟨first, others⟩ := List.forall_mem_cons.mp each
    obtain ⟨written, t, start, named, value⟩ := first_member key ms first rest
    have enough := commas_fit (memberTexts ((key, v) :: ms)) 0x7b 0x7d rest
    have entry : nextKey true (0x22 :: written) = .ok (.entry written) := rfl
    have other : key ≠ embedKey := apart (key, v) rfl
    have fuel : (sortedMembers ms).length <
        (0x7b :: (Text.utf8 (",".intercalate (memberTexts ((key, v) :: ms))) ++
          0x7d :: rest)).length := by
      simp only [member_texts_eq, sorted_members_eq, List.length_map, List.length_cons] at enough ⊢
      omega
    rw [start] at fuel ⊢
    simp only [readValue, readWith, skip_blank own, or_true, if_true, if_neg brace, readObject,
      entry, named, if_neg other, value]
    rw [members_read (later_members others) _ fuel]
    rfl

theorem reads_back (writable : Writable depth v) : ReadsBack (readValue text depth) v := by
  refine ⟨render_opens writable, ?_⟩
  induction writable with
  | scalar scalar exact =>
    intro rest stops
    rw [scalar_sorted scalar]
    rename_i depth v
    cases depth with
    | zero => exact scalar_read scalar exact stops
    | succ depth => exact scalar_read scalar exact stops
  | array all ih =>
    intro rest stops
    exact array_read (fun v member => ⟨render_opens (all v member), ih v member⟩) rest
  | object apart all ih =>
    intro rest stops
    exact object_read apart (fun m member => ⟨render_opens (all m member), ih m member⟩) rest

theorem render_read (writable : Writable deepest v) : read (Text.utf8 v.render) = .ok v.sorted := by
  obtain ⟨c, t, spelt, -⟩ := render_opens writable
  have back : readValue (readNested t) deepest (c :: t) = .ok (v.sorted, []) := by
    rw [← spelt]
    have again : ReadsBack (readValue (readNested t) deepest) v := reads_back writable
    simpa using again.2 [] stops_end
  rw [spelt]
  simp only [read, readNested, whole, back]
  rfl

end Values

section Ordered
variable {v : Value}

theorem tidy_sorted (tidy : Tidy v) : v.sorted = v := by
  induction tidy with
  | scalar scalar => exact scalar_sorted scalar
  | array items all ih =>
    have same : items.map Value.sorted = items := by
      conv_rhs => rw [← List.map_id items]
      exact List.map_congr_left ih
    rw [Value.sorted, sorted_items_eq, same]
  | object members sorted apart all ih =>
    have same : (members.map fun m => (m.1, m.2.sorted)) = members := by
      conv_rhs => rw [← List.map_id members]
      exact List.map_congr_left fun m member => by rw [ih m member]; rfl
    rw [Value.sorted, sorted_members_eq, same, sort_of_ascending sorted]

theorem item_depth {items : List Value} (member : v ∈ items) : v.depth ≤ itemsDepth items := by
  induction items with
  | nil => cases member
  | cons w ws ih =>
    rw [itemsDepth]
    rcases List.mem_cons.mp member with rfl | later
    · exact le_max_left _ _
    · exact (ih later).trans (le_max_right _ _)

theorem member_depth {m : Member} {ms : List Member} (member : m ∈ ms) :
    m.2.depth ≤ membersDepth ms := by
  induction ms with
  | nil => cases member
  | cons n ns ih =>
    rw [membersDepth]
    rcases List.mem_cons.mp member with rfl | later
    · exact le_max_left _ _
    · exact (ih later).trans (le_max_right _ _)

/-- What has been read can be written, unless a reader would not take it back. -/
theorem tidy_writable (tidy : Tidy v) (exact : ¬ Holds IsFloat v) (clear : ¬ Embeds v)
    {depth : Nat} (shallow : v.depth ≤ depth) : Writable depth v := by
  induction tidy generalizing depth with
  | scalar scalar => exact .scalar scalar fun own => exact (.here own)
  | array items all ih =>
    rw [Value.depth] at shallow
    obtain ⟨depth, rfl⟩ := Nat.exists_eq_add_one_of_ne_zero (Nat.ne_zero_of_lt shallow)
    refine .array fun v member => ih v member (fun inner => exact (.item member inner))
      (fun inner => clear (.item member inner)) ?_
    exact (item_depth member).trans (Nat.le_of_succ_le_succ shallow)
  | object members sorted apart all ih =>
    rw [Value.depth] at shallow
    obtain ⟨depth, rfl⟩ := Nat.exists_eq_add_one_of_ne_zero (Nat.ne_zero_of_lt shallow)
    refine .object ?_ fun m member => ih m member (fun inner => exact (.member member inner))
      (fun inner => clear (.member member inner)) ?_
    · rintro ⟨key, v⟩ first rfl
      obtain ⟨rest, rfl⟩ := List.head?_eq_some_iff.mp first
      exact clear (.here ⟨v, rest, rfl⟩)
    · exact (member_depth member).trans (Nat.le_of_succ_le_succ shallow)

end Ordered
end CommandGateway.Json
