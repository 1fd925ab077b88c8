import CommandGateway.Proofs.Net.Place
import CommandGateway.Uuid

/- The ways to write an id. However the case of its letters, and with its hyphens or without them,
   it is read as the same id, and no two ids are written alike. -/
namespace CommandGateway.Uuid

/-- An id as it is written, or the same in upper case or without hyphens. -/
inductive Spelling (u : Uuid) : List Char → Prop
  | canonical : Spelling u u.text.toList
  | upper {cs : List Char} (spelling : Spelling u cs) : Spelling u (cs.map Char.toUpper)
  | plain {cs : List Char} (spelling : Spelling u cs) : Spelling u (cs.filter (· ≠ '-'))

/-- Five groups in lower case, with a hyphen between each two. -/
structure Canonical (s : String) : Prop where
  groups : (parts s.toList).map List.length = groups
  letters : ∀ c ∈ s.toList, c = '-' ∨ c ∈ "0123456789abcdef".toList

def hyphenated (letters : List Char) : List Char := ['-'].intercalate (cut groups letters)

def Letters (u : Uuid) (letters : List Char) : Prop := letters.map digitOf? = u.digits.map some

section Digits
variable {c : Char} {d : Fin 16} {u : Uuid} {letters : List Char}

theorem digit_of_char : digitOf? (digitChar d) = some d := by
  revert d
  decide

theorem digit_char_lower : digitChar d ∈ "0123456789abcdef".toList := by
  revert d
  decide

/-- What reading an id, or a place, has to know of the letter of a digit. -/
structure DigitLetter (c : Char) : Prop where
  unreserved : Net.isUnreserved c = true
  noHyphen : c ≠ '-'
  noScheme : c.toLower ≠ 'u'
  noBrace : c ≠ '\x7b'
  upper : digitOf? c.toUpper = digitOf? c

theorem digit_letter (digit : digitOf? c = some d) : DigitLetter c := by
  have all : ∀ n < 0x80, (digitOf? (Char.ofNat n)).isSome →
      Net.isUnreserved (Char.ofNat n) = true ∧ Char.ofNat n ≠ '-' ∧
      (Char.ofNat n).toLower ≠ 'u' ∧ Char.ofNat n ≠ '\x7b' ∧
      digitOf? (Char.ofNat n).toUpper = digitOf? (Char.ofNat n) := by decide
  have small : c.toNat < 0x80 := by
    unfold digitOf? at digit
    split at digit
    · assumption
    · cases digit
  have facts := all c.toNat small
  rw [Char.ofNat_toNat] at facts
  obtain ⟨unreserved, noHyphen, noScheme, noBrace, upper⟩ := facts (by rw [digit]; rfl)
  exact ⟨unreserved, noHyphen, noScheme, noBrace, upper⟩

theorem letters_length (spelt : Letters u letters) : letters.length = 32 := by
  rw [← List.length_map (f := digitOf?), spelt, List.length_map, u.size]

theorem letters_digits (spelt : Letters u letters) : ∀ c ∈ letters, ∃ d, digitOf? c = some d := by
  intro c member
  have digit : digitOf? c ∈ u.digits.map some := spelt ▸ List.mem_map_of_mem member
  obtain ⟨d, -, same⟩ := List.mem_map.mp digit
  exact ⟨d, same.symm⟩

theorem letters_letter (spelt : Letters u letters) : ∀ c ∈ letters, DigitLetter c := by
  intro c member
  obtain ⟨d, digit⟩ := letters_digits spelt c member
  exact digit_letter digit

theorem letters_upper (spelt : Letters u letters) : Letters u (letters.map Char.toUpper) := by
  rw [Letters, List.map_map, ← spelt]
  exact List.map_congr_left fun c member => (letters_letter spelt c member).upper

theorem map_m_digits {digits : List (Fin 16)} (spelt : letters.map digitOf? = digits.map some) :
    letters.mapM digitOf? = some digits := by
  induction letters generalizing digits with
  | nil =>
    obtain rfl := List.map_eq_nil_iff.mp spelt.symm
    rfl
  | cons c rest ih =>
    cases digits with
    | nil => cases spelt
    | cons d others =>
      obtain ⟨first, later⟩ := List.cons.inj spelt
      rw [List.mapM_cons, first, ih later]
      rfl

theorem of_digits (spelt : Letters u letters) : ofDigits? letters = some u := by
  simp only [ofDigits?, map_m_digits spelt, dif_pos u.size]

end Digits

section Spellings
variable {u : Uuid} {letters cs : List Char}

structure Grouped (letters a b c d e : List Char) : Prop where
  sizes : [a, b, c, d, e].map List.length = groups
  whole : letters = a ++ (b ++ (c ++ (d ++ e)))
  written : hyphenated letters = a ++ '-' :: (b ++ '-' :: (c ++ '-' :: (d ++ '-' :: e)))

theorem letters_grouped (length : letters.length = 32) :
    ∃ a b c d e, Grouped letters a b c d e := by
  refine ⟨letters.take 8, (letters.drop 8).take 4, ((letters.drop 8).drop 4).take 4,
    (((letters.drop 8).drop 4).drop 4).take 4,
    ((((letters.drop 8).drop 4).drop 4).drop 4).take 12, ?_, ?_, ?_⟩
  · simp [length, groups]
  · have last : ((((letters.drop 8).drop 4).drop 4).drop 4).length ≤ 12 := by simp [length]
    rw [List.take_of_length_le last, List.take_append_drop, List.take_append_drop,
      List.take_append_drop, List.take_append_drop]
  · simp [hyphenated, cut, groups, List.intercalate, List.intersperse]

theorem plain_hyphenated (length : letters.length = 32) (own : ∀ c ∈ letters, c ≠ '-') :
    (hyphenated letters).filter (· ≠ '-') = letters := by
  obtain ⟨a, b, c, d, e, grouped⟩ := letters_grouped length
  have kept : letters.filter (· ≠ '-') = letters :=
    List.filter_eq_self.mpr fun c member => by simpa using own c member
  rw [grouped.written]
  conv_rhs => rw [← kept, grouped.whole]
  simp

theorem hyphenated_map (f : Char → Char) (hyphen : f '-' = '-') :
    (hyphenated letters).map f = hyphenated (letters.map f) := by
  simp [hyphenated, cut, groups, List.intercalate, List.intersperse, hyphen, List.map_take,
    List.map_drop]

theorem text_letters (u : Uuid) : Letters u (u.digits.map digitChar) := by
  rw [Letters, List.map_map]
  exact List.map_congr_left fun d _ => digit_of_char

theorem text_hyphenated (u : Uuid) : u.text.toList = hyphenated (u.digits.map digitChar) := by
  rw [text, String.toList_ofList, hyphenated]

theorem spelling_letters (spelling : Spelling u cs) :
    ∃ letters, Letters u letters ∧ (cs = letters ∨ cs = hyphenated letters) := by
  induction spelling with
  | canonical => exact ⟨u.digits.map digitChar, text_letters u, Or.inr (text_hyphenated u)⟩
  | upper _ ih =>
    obtain ⟨letters, spelt, same⟩ := ih
    refine ⟨letters.map Char.toUpper, letters_upper spelt, ?_⟩
    rw [← hyphenated_map _ (by decide)]
    exact same.imp (congrArg _) (congrArg _)
  | plain _ ih =>
    obtain ⟨letters, spelt, same⟩ := ih
    have own : ∀ c ∈ letters, c ≠ '-' := fun c member => (letters_letter spelt c member).noHyphen
    refine ⟨letters, spelt, Or.inl ?_⟩
    rcases same with rfl | rfl
    · exact List.filter_eq_self.mpr fun c member => by simpa using own c member
    · exact plain_hyphenated (letters_length spelt) own

theorem hyphenated_parts (length : letters.length = 32) (own : ∀ c ∈ letters, c ≠ '-') :
    (parts (hyphenated letters)).map List.length = groups ∧
      (parts (hyphenated letters)).flatten = letters := by
  obtain ⟨a, b, c, d, e, grouped⟩ := letters_grouped length
  have plain : ∀ group ∈ [a, b, c, d, e], ∀ c ∈ group, decide (c = '-') = false := by
    intro group member c inside
    have here : c ∈ letters := by
      rw [grouped.whole]
      simp only [List.mem_cons, List.not_mem_nil, or_false] at member
      rcases member with rfl | rfl | rfl | rfl | rfl <;> simp [inside]
    exact decide_eq_false (own c here)
  simp only [List.forall_mem_cons] at plain
  obtain ⟨first, second, third, fourth, fifth, -⟩ := plain
  have step : ∀ {group rest others}, (∀ c ∈ group, decide (c = '-') = false) →
      Text.pieces (· = '-') rest = others →
      Text.pieces (· = '-') (group ++ '-' :: rest) = group :: others := by
    intro group rest others plain cut
    have next := Net.pieces_separator (p := (· = '-')) (c := '-') rfl rest
    rw [Net.pieces_piece plain next, List.append_nil, cut]
  have last : Text.pieces (· = '-') e = [e] := by
    have ends : Text.pieces (· = '-') ([] : List Char) = [] :: [] := rfl
    have alone := Net.pieces_piece fifth ends
    simpa using alone
  have cut : parts (hyphenated letters) = [a, b, c, d, e] := by
    rw [grouped.written, parts]
    exact step first (step second (step third (step fourth last)))
  rw [cut, grouped.whole]
  exact ⟨grouped.sizes, by simp⟩

theorem unwrap_letter {c : Char} (letter : DigitLetter c) (rest : List Char) :
    unwrap (c :: rest) = none := by
  have scheme : urn = 'u' :: urn.tail := rfl
  have apart : urn.isPrefixOf ((c :: rest).map Char.toLower) = false := by
    rw [scheme, List.map_cons, List.isPrefixOf, beq_eq_false_iff_ne.mpr letter.noScheme.symm,
      Bool.false_and]
  rw [unwrap, if_neg (Bool.eq_false_iff.mp apart)]
  exact fun _ same => letter.noBrace (List.cons.inj same).1

theorem unwrap_hyphenated (spelt : Letters u letters) : unwrap (hyphenated letters) = none := by
  obtain ⟨a, b, c, d, e, grouped⟩ := letters_grouped (letters_length spelt)
  have size : a.length = 8 := by
    have sizes := grouped.sizes
    simp only [List.map_cons, groups] at sizes
    exact (List.cons.inj sizes).1
  obtain ⟨x, rest, rfl⟩ := List.exists_cons_of_ne_nil
    (List.ne_nil_of_length_pos (by omega : 0 < a.length))
  have letter := letters_letter spelt x (by simp [grouped.whole])
  rw [grouped.written]
  exact unwrap_letter letter _

theorem hyphenated_length (length : letters.length = 32) : (hyphenated letters).length = 36 := by
  obtain ⟨a, b, c, d, e, grouped⟩ := letters_grouped length
  rw [grouped.whole] at length
  rw [grouped.written]
  simp only [List.length_append, List.length_cons] at length ⊢
  omega

theorem hyphenated_mem {c : Char} (length : letters.length = 32) (member : c ∈ hyphenated letters) :
    c = '-' ∨ c ∈ letters := by
  obtain ⟨first, second, third, fourth, fifth, grouped⟩ := letters_grouped length
  rw [grouped.written] at member
  rw [grouped.whole]
  simp only [List.mem_append, List.mem_cons] at member ⊢
  tauto

theorem parse_spelling (spelling : Spelling u cs) : parse (String.ofList cs) = .ok u := by
  obtain ⟨letters, spelt, same⟩ := spelling_letters spelling
  have length := letters_length spelt
  have own : ∀ c ∈ letters, c ≠ '-' := fun c member => (letters_letter spelt c member).noHyphen
  rcases same with rfl | rfl
  · simp only [parse, String.toList_ofList, length, if_true, of_digits spelt]
  · obtain ⟨sizes, whole⟩ := hyphenated_parts length own
    have read : ofGroups? (hyphenated letters) = some u := by
      simp only [ofGroups?, sizes, if_true, whole, of_digits spelt]
    simp only [parse, String.toList_ofList, hyphenated_length length, unwrap_hyphenated spelt,
      Option.getD_none, read]
    rfl

theorem spelling_plain (spelling : Spelling u cs) :
    32 ≤ cs.length ∧ ∀ c ∈ cs, Net.isUnreserved c := by
  obtain ⟨letters, spelt, same⟩ := spelling_letters spelling
  have length := letters_length spelt
  have plain : ∀ c ∈ letters, Net.isUnreserved c := fun c member =>
    (letters_letter spelt c member).unreserved
  rcases same with rfl | rfl
  · exact ⟨Nat.le_of_eq length.symm, plain⟩
  · refine ⟨by simp [hyphenated_length length], fun c member => ?_⟩
    rcases hyphenated_mem length member with rfl | inside
    · decide
    · exact plain c inside

theorem text_canonical (u : Uuid) : Canonical u.text := by
  have spelt := text_letters u
  have length := letters_length spelt
  have own : ∀ c ∈ u.digits.map digitChar, c ≠ '-' :=
    fun c member => (letters_letter spelt c member).noHyphen
  refine ⟨text_hyphenated u ▸ (hyphenated_parts length own).1, fun c member => ?_⟩
  rw [text_hyphenated] at member
  refine (hyphenated_mem length member).imp_right fun inside => ?_
  obtain ⟨d, -, rfl⟩ := List.mem_map.mp inside
  exact digit_char_lower

theorem text_injective {v : Uuid} (same : u.text = v.text) : u = v := by
  have first := parse_spelling (Spelling.canonical (u := u))
  rw [same, parse_spelling (Spelling.canonical (u := v))] at first
  exact (Except.ok.inj first).symm

end Spellings
end CommandGateway.Uuid
