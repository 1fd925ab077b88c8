import CommandGateway.Json.Reader
import CommandGateway.Proofs.Text.Utf8
import Mathlib.Tactic.IntervalCases

/- Strings and integers. What is written is read back, whatever stands behind a string, and with
   nothing behind an integer that could go on with it. -/
namespace CommandGateway.Json

section Strings

theorem read_plain {bytes : Bytes} (plain : ∀ b ∈ bytes, ¬ b < 0x20 ∧ b ≠ 0x22 ∧ b ≠ 0x5c)
    (done rest : Bytes) :
    readSpelled .plain done (bytes ++ rest) = readSpelled .plain (bytes.reverse ++ done) rest := by
  induction bytes generalizing done with
  | nil => rfl
  | cons b bytes ih =>
    obtain ⟨⟨above, quote, backslash⟩, others⟩ := List.forall_mem_cons.mp plain
    simp only [List.cons_append, readSpelled, if_neg quote, if_neg backslash, if_neg above]
    rw [ih others]
    simp

theorem read_control {c : Char} (control : c.toNat < 0x20) (done rest : Bytes) :
    readSpelled .plain done ((escape c).flatMap String.utf8EncodeChar ++ rest) =
      readSpelled .plain ((String.utf8EncodeChar c).reverse ++ done) rest := by
  obtain ⟨n, small, rfl⟩ : ∃ n < 0x20, c = Char.ofNat n :=
    ⟨c.toNat, control, (Char.ofNat_toNat c).symm⟩
  interval_cases n <;> rfl

def Unescaped (c : Char) : Prop := 0x20 ≤ c.toNat ∧ c ≠ '"' ∧ c ≠ '\\'

instance (c : Char) : Decidable (Unescaped c) := inferInstanceAs (Decidable (_ ∧ _ ∧ _))

theorem escape_unescaped {c : Char} (own : Unescaped c) : escape c = [c] := by
  obtain ⟨above, quote, backslash⟩ := own
  have control := Nat.not_lt_of_le above
  have other : ∀ d : Char, d.toNat < 0x20 → c ≠ d := by
    rintro d small rfl
    exact control small
  simp [escape, quote, backslash, control, other]

theorem quote_unescaped {text : String} (own : ∀ c ∈ text.toList, Unescaped c) :
    quote text = "\"" ++ text ++ "\"" := by
  have itself : text.toList.flatMap escape = text.toList := by
    rw [List.flatMap_congr fun c member => escape_unescaped (own c member)]
    exact List.flatMap_singleton' _
  rw [quote, itself, String.ofList_toList]

theorem read_escape (c : Char) (done rest : Bytes) :
    readSpelled .plain done ((escape c).flatMap String.utf8EncodeChar ++ rest) =
      readSpelled .plain ((String.utf8EncodeChar c).reverse ++ done) rest := by
  by_cases control : c.toNat < 0x20
  · exact read_control control done rest
  by_cases quote : c = '"'
  · subst quote
    rfl
  by_cases backslash : c = '\\'
  · subst backslash
    rfl
  have above := Nat.le_of_not_lt control
  rw [escape_unescaped ⟨above, quote, backslash⟩, List.flatMap_singleton,
    read_plain (Text.encode_plain above quote backslash)]

theorem read_escapes (l : List Char) (done rest : Bytes) :
    readSpelled .plain done ((l.flatMap escape).flatMap String.utf8EncodeChar ++ 0x22 :: rest) =
      .ok (done.reverse ++ l.flatMap String.utf8EncodeChar, rest) := by
  induction l generalizing done with
  | nil => simp [readSpelled]
  | cons c l ih =>
    rw [List.flatMap_cons, List.flatMap_append, List.append_assoc, read_escape, ih]
    simp

theorem utf8_quote (s : String) : Text.utf8 (quote s) =
    0x22 :: ((s.toList.flatMap escape).flatMap String.utf8EncodeChar ++ [0x22]) := by
  have mark : Text.utf8 "\"" = [0x22] := rfl
  rw [quote, Text.utf8_append, Text.utf8_append, mark, Text.utf8_of_list]
  rfl

theorem text_read (s : String) (rest : Bytes) :
    ∃ written, Text.utf8 (quote s) ++ rest = 0x22 :: written ∧
      readText written = .ok (s, rest) := by
  refine ⟨(s.toList.flatMap escape).flatMap String.utf8EncodeChar ++ 0x22 :: rest, ?_, ?_⟩
  · rw [utf8_quote]
    simp
  · simp only [readText, read_escapes, List.reverse_nil, List.nil_append, ← Text.utf8_flat,
      Text.of_utf8_utf8]

end Strings

/-- Behind a value stands nothing, or what goes on in or ends the container it is in. -/
def Stops (rest : Bytes) : Prop := ∀ c ∈ rest.head?, c = 0x2c ∨ c = 0x5d ∨ c = 0x7d

section Numbers
variable {rest : Bytes} {n : Nat}

theorem digit_range {c : Char} (digit : c.isDigit) : 0x30 ≤ c.toNat ∧ c.toNat ≤ 0x39 := by
  simp only [Char.isDigit, Bool.and_eq_true, decide_eq_true_eq] at digit
  exact ⟨UInt32.le_iff_toNat_le.mp digit.1, UInt32.le_iff_toNat_le.mp digit.2⟩

theorem digits_of (n : Nat) : ∀ c ∈ Nat.toDigits 10 n, 0x30 ≤ c.toNat ∧ c.toNat ≤ 0x39 :=
  fun _ member => digit_range (Nat.isDigit_of_mem_toDigits (by decide) (by decide) member)

theorem utf8_nat (n : Nat) : Text.utf8 (toString n) = (Nat.toDigits 10 n).map Text.byteOf := by
  rw [Nat.toString_eq_ofList_toDigits, Text.utf8_of_list]
  exact Text.encode_all_ascii fun c member =>
    Nat.lt_of_le_of_lt (digits_of n c member).2 (by decide)

theorem byte_is_digit {c : Char} (digit : 0x30 ≤ c.toNat ∧ c.toNat ≤ 0x39) :
    isDigit (Text.byteOf c) = true ∧ digitValue (Text.byteOf c) = c.toNat - 0x30 := by
  have exact : (Text.byteOf c).toNat = c.toNat := Text.byte_to_nat (by omega)
  simp only [isDigit, digitValue, exact, Bool.and_eq_true, decide_eq_true_eq,
    UInt8.le_iff_toNat_le]
  exact ⟨digit, trivial⟩

theorem le_of_digit_chars (cs : List Char) (n : Nat) : n ≤ Nat.ofDigitChars 10 cs n := by
  induction cs generalizing n with
  | nil => simp
  | cons c cs ih =>
    rw [Nat.ofDigitChars_cons]
    exact Nat.le_trans (by omega) (ih _)

theorem absorb_digits {cs : List Char} (digits : ∀ c ∈ cs, 0x30 ≤ c.toNat ∧ c.toNat ≤ 0x39)
    (fits : Nat.ofDigitChars 10 cs n ≤ maxSignificand) :
    absorb n (cs.map Text.byteOf) = (Nat.ofDigitChars 10 cs n, 0) := by
  induction cs generalizing n with
  | nil => simp [absorb]
  | cons c cs ih =>
    obtain ⟨first, others⟩ := List.forall_mem_cons.mp digits
    rw [Nat.ofDigitChars_cons] at fits ⊢
    have next : n * 10 + digitValue (Text.byteOf c) = 10 * n + (c.toNat - '0'.toNat) := by
      rw [(byte_is_digit first).2, Nat.mul_comm]
      rfl
    have small := Nat.le_trans (le_of_digit_chars cs _) fits
    simp only [List.map_cons, absorb, next, if_pos small]
    exact ih others fits

theorem first_digit (positive : 0 < n) : ∃ c cs, Nat.toDigits 10 n = c :: cs ∧ c ≠ '0' := by
  induction n using Nat.strongRecOn with
  | ind n ih =>
    by_cases small : n < 10
    · refine ⟨n.digitChar, [], Nat.toDigits_of_lt_base small, ?_⟩
      rw [Ne, Nat.digitChar_eq_zero]
      exact positive.ne'
    · obtain ⟨c, cs, front, other⟩ := ih (n / 10) (by omega) (by omega)
      refine ⟨c, cs ++ [(n % 10).digitChar], ?_, other⟩
      rw [Nat.toDigits_of_base_le (by decide) (Nat.le_of_not_lt small), front]
      rfl

theorem stops_not_digit (stops : Stops rest) : ∀ c ∈ rest.head?, isDigit c = false := by
  intro c first
  rcases stops c first with rfl | rfl | rfl <;> rfl

theorem span_digits {ds : Bytes} (digits : ∀ d ∈ ds, isDigit d) (stops : Stops rest) :
    (ds ++ rest).takeWhile isDigit = ds ∧ (ds ++ rest).dropWhile isDigit = rest := by
  rw [List.takeWhile_append_of_pos digits, List.dropWhile_append_of_pos digits]
  cases rest with
  | nil => simp
  | cons c rest => simp [stops_not_digit stops c rfl]

theorem tail_integer (negative : Bool) (stops : Stops rest) :
    readTail negative n 0 rest = .ok (integer negative n, rest) := by
  cases rest with
  | nil => rfl
  | cons c rest => rcases stops c rfl with rfl | rfl | rfl <;> rfl

theorem nat_read (negative : Bool) (fits : n ≤ maxSignificand) (stops : Stops rest) :
    readNumber negative (Text.utf8 (toString n) ++ rest) = .ok (integer negative n, rest) := by
  rw [utf8_nat]
  rcases Nat.eq_zero_or_pos n with rfl | positive
  · have none : ∀ d ∈ ([] : Bytes), isDigit d := by simp
    have alone : rest.takeWhile isDigit = [] := (span_digits none stops).1
    simp only [Nat.toDigits_zero, List.map_cons, List.map_nil, List.cons_append, List.nil_append]
    have zero : Text.byteOf '0' = 0x30 := rfl
    simp only [readNumber, zero, if_true, alone, List.isEmpty_nil, tail_integer negative stops]
  · obtain ⟨c, cs, digits, other⟩ := first_digit positive
    have all := digits_of n
    have value := Nat.ofDigitChars_ten_toDigits (n := n)
    rw [digits] at all value ⊢
    have first := all c List.mem_cons_self
    have apart : Text.byteOf c ≠ 0x30 := by
      intro same
      refine other (Char.toNat_inj.mp ?_)
      rw [← Text.byte_to_nat (c := c) (by omega), same]
      rfl
    have bytes : ∀ d ∈ cs.map Text.byteOf, isDigit d := by
      intro d member
      obtain ⟨e, here, rfl⟩ := List.mem_map.mp member
      exact (byte_is_digit (all e (List.mem_cons_of_mem _ here))).1
    obtain ⟨taken, dropped⟩ := span_digits bytes stops
    have absorbed : absorb 0 ((c :: cs).map Text.byteOf) = (n, 0) := by
      rw [absorb_digits all (value ▸ fits), value]
    simp only [List.map_cons, List.cons_append, readNumber, if_neg apart, (byte_is_digit first).1,
      if_true, taken, dropped]
    rw [← List.map_cons, absorbed]
    exact tail_integer negative stops

theorem digit_read {c : UInt8} {t : Bytes} (digit : isDigit c) :
    readScalar c t = readNumber false (c :: t) := by
  have apart : ∀ d : UInt8, isDigit d = false → c ≠ d := by
    rintro d other rfl
    exact absurd digit (by simp [other])
  simp only [readScalar, if_neg (apart 0x6e rfl), if_neg (apart 0x74 rfl), if_neg (apart 0x66 rfl),
    if_neg (apart 0x2d rfl), if_pos digit]

theorem int_read {n : Int} (least : -2 ^ 63 ≤ n) (most : n < 2 ^ 64) (stops : Stops rest) :
    ∃ c t, Text.utf8 (toString n) ++ rest = c :: t ∧ (c = 0x2d ∨ isDigit c) ∧
      readScalar c t = .ok (.int n, rest) := by
  cases n with
  | ofNat n =>
    have fits : n ≤ maxSignificand := by
      have most : n < 2 ^ 64 := by
        simp only [Int.ofNat_eq_natCast] at most
        omega
      exact Nat.le_sub_one_of_lt most
    obtain ⟨c, cs, digits⟩ := List.exists_cons_of_ne_nil (Nat.toDigits_ne_nil (n := n) (b := 10))
    have digit := (byte_is_digit (digits_of n c (digits ▸ List.mem_cons_self))).1
    have spelt : Text.utf8 (toString (Int.ofNat n)) = Text.byteOf c :: cs.map Text.byteOf := by
      have own : toString (Int.ofNat n) = toString n := rfl
      rw [own, utf8_nat, digits]
      rfl
    have read : readNumber false (Text.utf8 (toString (Int.ofNat n)) ++ rest) =
      .ok (.int n, rest) := nat_read false fits stops
    rw [spelt] at read ⊢
    exact ⟨_, _, rfl, Or.inr digit, (digit_read digit).trans read⟩
  | negSucc n =>
    have large : n + 1 ≤ 2 ^ 63 := by omega
    have fits : n + 1 ≤ maxSignificand := Nat.le_trans large (by decide)
    have spelt : toString (Int.negSucc n) = "-" ++ toString (n + 1) := rfl
    refine ⟨0x2d, Text.utf8 (toString (n + 1)) ++ rest, ?_, Or.inl rfl, ?_⟩
    · rw [spelt, Text.utf8_append]
      rfl
    · have read := nat_read true fits stops
      have held : 0 < n + 1 ∧ n + 1 ≤ Nat.pow 2 63 := ⟨Nat.succ_pos n, large⟩
      have value : integer true (n + 1) = .int (Int.negSucc n) := by
        simp only [integer, if_true, if_pos held]
        rfl
      rw [value] at read
      exact read

end Numbers
end CommandGateway.Json
