import CommandGateway.Proofs.Json.Embedded
import CommandGateway.Proofs.Text.Utf8

/- What is read as a string. A JSON text of a string is its spelling between blanks, or an object
   that embeds such a text. A JSON value that is read as one is the string, or an object with such
   a text embedded in it and nothing else. -/
namespace CommandGateway.Json

/-- The texts of a string. An embedded one is again such a text, in the string behind the key that
    is set apart. -/
inductive StringText (s : String) : Bytes → Prop
  | quoted {b t rest : Bytes} (opens : skipBlank b = 0x22 :: t)
      (spelled : readText t = .ok (s, rest)) (ends : skipBlank rest = []) : StringText s b
  | embedded {b t r u x w z rest : Bytes} {inner : String} (opens : skipBlank b = 0x7b :: t)
      (key : skipBlank t = 0x22 :: r) (named : readText r = .ok (embedKey, u))
      (colon : skipBlank u = 0x3a :: x) (value : skipBlank x = 0x22 :: w)
      (spelled : readText w = .ok (inner, z)) (inside : StringText s (Text.utf8 inner))
      (closes : skipBlank z = 0x7d :: rest) (ends : skipBlank rest = []) : StringText s b

section Places
variable {b r rest : Bytes} {key : String} {v : Value}

theorem first_key_iff : nextKey true b = .ok (.entry r) ↔ skipBlank b = 0x22 :: r := by
  constructor
  · intro next
    simp only [nextKey, if_true] at next
    split at next
    · cases next
    · rename_i c t here
      split at next
      · cases next
      · split at next
        · rename_i quote
          cases next
          rw [here, quote]
        · cases next
  · intro here
    have other : ¬ (0x22 : UInt8) = 0x7d := by decide
    simp only [nextKey, here, if_neg other, if_true]

theorem read_colon_iff : readColon b = .ok rest ↔ skipBlank b = 0x3a :: rest := by
  constructor
  · intro read
    simp only [readColon] at read
    split at read
    · cases read
    · rename_i c t here
      split at read
      · rename_i colon
        cases read
        rw [here, colon]
      · cases read
  · intro here
    simp only [readColon, here, if_true]

theorem read_key_iff :
    readKey b = .ok (key, rest) ↔
      ∃ u, readText b = .ok (key, u) ∧ skipBlank u = 0x3a :: rest := by
  constructor
  · intro read
    simp only [readKey] at read
    split at read
    · cases read
    · rename_i own u named
      split at read
      · cases read
      · rename_i t colon
        cases read
        exact ⟨u, named, read_colon_iff.mp colon⟩
  · rintro ⟨u, named, colon⟩
    simp only [readKey, named, read_colon_iff.mpr colon]

theorem end_embedded_iff : endEmbedded v b = .ok (v, rest) ↔ skipBlank b = 0x7d :: rest := by
  constructor
  · intro ends
    simp only [endEmbedded] at ends
    split at ends
    · cases ends
    · rename_i c t here
      split at ends
      · rename_i brace
        cases ends
        rw [here, brace]
      · cases ends
  · intro here
    simp only [endEmbedded, here, if_true]

end Places

section Lengths
variable {b t rest : Bytes} {c : UInt8} {s : String}

theorem skip_blank_shorter (here : skipBlank b = c :: t) : t.length < b.length := by
  have kept := (List.dropWhile_sublist isBlank (l := b)).length_le
  rw [← skipBlank, here] at kept
  exact kept

theorem spelled_length (n : Nat) : (spelled n).length ≤ 4 := by
  have one : spelled n = String.utf8EncodeChar (Char.ofNat n) := by
    rw [spelled, Text.utf8_flat, String.toList_singleton, List.flatMap_singleton]
  rw [one, String.length_utf8EncodeChar]
  exact Char.utf8Size_le_four _

theorem hex_escape_length {high : Option Nat} {digits bytes : Bytes}
    (read : hexEscape high digits = .ok (.inr bytes)) : bytes.length ≤ 4 := by
  simp only [hexEscape] at read
  split at read
  · cases read
  · split at read
    · split at read
      · obtain rfl := Sum.inr.inj (Except.ok.inj read)
        exact spelled_length _
      · cases read
    · split at read
      · cases read
      · split at read
        · cases read
        · obtain rfl := Sum.inr.inj (Except.ok.inj read)
          exact spelled_length _

def Mode.held : Mode → Nat
  | .hex _ digits => digits.length
  | _ => 0

/-- An escape spells no more bytes than it has digits, so a string is shorter than what is written
    for it. -/
theorem read_spelled_length {mode : Mode} {done out : Bytes}
    (read : readSpelled mode done b = .ok (out, rest)) :
    out.length + rest.length < done.length + mode.held + b.length := by
  fun_induction readSpelled mode done b with
  -- a fault
  | case1 | case4 | case8 | case12 | case14 | case16 => cases read
  -- the closing quote
  | case2 =>
    cases read
    simp [Mode.held]
  -- the last digit, behind which all four are spelled out
  | case11 high digits done c t taken bytes escape ih =>
    have short := hex_escape_length escape
    have later := ih read
    simp only [Mode.held, List.length_append, List.length_reverse, List.length_cons] at later ⊢
    omega
  -- a byte that is kept, held or dropped
  | case3 | case5 | case6 | case7 | case9 | case10 | case13 | case15 =>
    rename_i ih
    have later := ih read
    simp only [Mode.held, List.length_cons, List.length_nil] at later ⊢
    omega

theorem read_text_length (read : readText b = .ok (s, rest)) :
    (Text.utf8 s).length + rest.length < b.length := by
  simp only [readText] at read
  split at read
  · cases read
  · rename_i bytes t spelled
    split at read
    · rename_i own spelt
      cases read
      rw [Text.utf8_of_bytes spelt]
      simpa [Mode.held] using read_spelled_length spelled
    · cases read

end Lengths

section Texts
variable {b t rest : Bytes} {c : UInt8} {s : String} {text : Bytes → Except Fault Value}

theorem scalar_string_iff :
    readScalar c t = .ok (.string s, rest) ↔ c = 0x22 ∧ readText t = .ok (s, rest) := by
  constructor
  · intro read
    simp only [readScalar] at read
    split at read
    · cases word_read read
    · split at read
      · cases word_read read
      · split at read
        · cases word_read read
        · split at read
          · cases number_numeric read
          · split at read
            · cases number_numeric read
            · split at read
              · rename_i quote
                split at read
                · rename_i own u spelled
                  cases read
                  exact ⟨quote, spelled⟩
                · cases read
              · cases read
  · rintro ⟨rfl, spelled⟩
    have digit : isDigit 0x22 = false := rfl
    simp [readScalar, digit, spelled]

/-- By induction on the fuel, a piece of which is used up for each text inside another. -/
theorem string_text_of_read {fuel : Bytes} (read : readNested fuel b = .ok (.string s)) :
    StringText s b := by
  induction fuel generalizing b with
  | nil => cases read
  | cons _ fuel ih =>
    obtain ⟨rest, value, ends⟩ := whole_iff.mp read
    have value : readWith (readNested fuel) (some (readValue (readNested fuel) 126)) b =
        .ok (.string s, rest) := value
    generalize same : Value.string s = v at value
    cases read_with value with
    | scalar opens _ scalar =>
      subst same
      obtain ⟨rfl, spelled⟩ := scalar_string_iff.mp scalar
      exact .quoted opens spelled ends
    | array => cases same
    | object opens nests listed =>
      subst same
      cases listed with
      | embedded here named quoted spelled inner closes =>
        obtain ⟨u, key, colon⟩ := read_key_iff.mp named
        exact .embedded opens (first_key_iff.mp here) key colon quoted spelled (ih inner)
          (end_embedded_iff.mp closes) ends

theorem quoted_read {inner : Option (Reader Value)} (opens : skipBlank b = 0x22 :: t)
    (spelled : readText t = .ok (s, rest)) :
    readWith text inner b = .ok (.string s, rest) := by
  have plain : ¬ ((0x22 : UInt8) = 0x5b ∨ (0x22 : UInt8) = 0x7b) := by decide
  simp only [readWith, opens, if_neg plain]
  exact scalar_string_iff.mpr ⟨rfl, spelled⟩

theorem string_text_read (held : StringText s b) {fuel : Bytes}
    (enough : b.length ≤ fuel.length) : readNested fuel b = .ok (.string s) := by
  -- a text inside another is shorter, so the bytes of the outer one are fuel enough
  induction held generalizing fuel with
  | quoted opens spelled ends =>
    have shorter := skip_blank_shorter opens
    obtain ⟨f, fuel, rfl⟩ := List.exists_cons_of_length_pos (by omega : 0 < fuel.length)
    exact whole_iff.mpr ⟨_, quoted_read opens spelled, ends⟩
  | @embedded b t r u x w z rest inner opens key named colon value spelled inside closes ends ih =>
    have fits : (Text.utf8 inner).length + 1 < b.length := by
      have := skip_blank_shorter opens
      have := skip_blank_shorter key
      have := read_text_length named
      have := skip_blank_shorter colon
      have := skip_blank_shorter value
      have := read_text_length spelled
      omega
    obtain ⟨f, fuel, rfl⟩ := List.exists_cons_of_length_pos (by omega : 0 < fuel.length)
    have held : readNested fuel (Text.utf8 inner) = .ok (.string s) :=
      ih (by rw [List.length_cons] at enough; omega)
    have brace : ¬ (0x7b : UInt8) = 0x5b := by decide
    have object : readWith (readNested fuel) (some (readValue (readNested fuel) 126)) b =
        .ok (.string s, rest) := by
      simp only [readWith, opens, or_true, if_true, if_neg brace, readObject,
        first_key_iff.mpr key, read_key_iff.mpr ⟨u, named, colon⟩, readEmbedded, value, spelled,
        held]
      exact end_embedded_iff.mpr closes
    exact whole_iff.mpr ⟨rest, object, ends⟩

theorem read_string_iff : read b = .ok (.string s) ↔ StringText s b :=
  ⟨string_text_of_read, fun held => string_text_read held le_rfl⟩

end Texts

section Values
variable {s : String} {v : Value}

theorem resolve_string_iff :
    v.resolve = .ok (.string s) ↔ v = .string s ∨
      ∃ inner, v = .object [(embedKey, .string inner)] ∧ StringText s (Text.utf8 inner) := by
  constructor
  · intro resolved
    cases v with
    | string own =>
      cases resolved
      exact Or.inl rfl
    | object ms =>
      simp only [Value.resolve] at resolved
      split at resolved
      · rename_i held count embeds
        obtain ⟨rest, rfl, many⟩ := embedded_some_iff.mp embeds
        obtain ⟨inner, rfl, spelt, rfl⟩ := open_embedded_iff.mp resolved
        obtain rfl : rest = [] := by simpa using many
        exact Or.inr ⟨inner, rfl, read_string_iff.mp spelt⟩
      · split at resolved <;> cases resolved
    | array items =>
      simp only [Value.resolve] at resolved
      split at resolved <;> cases resolved
    | null | bool _ | int _ | float _ => cases resolved
  · rintro (rfl | ⟨inner, rfl, spelt⟩)
    · rfl
    · rw [Value.resolve, embedded_some_iff.mpr ⟨[], rfl, rfl⟩]
      exact open_embedded_iff.mpr ⟨inner, rfl, read_string_iff.mpr spelt, rfl⟩

end Values
end CommandGateway.Json
