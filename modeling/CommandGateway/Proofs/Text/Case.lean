import CommandGateway.Text.Lowercase
import Mathlib.Data.String.Basic

/- Words in either case. A text that becomes a word of ASCII letters in full Unicode lower case has
   the letters of that word in one case or the other; other characters have other lower-case forms,
   but for the sign for kelvin, which becomes a k. -/
namespace CommandGateway.Text

def SameWord (s w : String) : Prop := s.toList.map Char.toLower = w.toList.map Char.toLower

section Letters
variable {c d : Char}

theorem to_nat_to_lower (c : Char) :
    c.toLower.toNat = if 65 ≤ c.toNat ∧ c.toNat ≤ 90 then c.toNat + 32 else c.toNat := by
  have capital : c.val ≥ 'A'.val ∧ c.val ≤ 'Z'.val ↔ 65 ≤ c.toNat ∧ c.toNat ≤ 90 := Iff.rfl
  have gap : ('a'.val - 'A'.val).toNat = 32 := rfl
  have number : c.val.toNat = c.toNat := rfl
  unfold Char.toLower
  by_cases own : 65 ≤ c.toNat ∧ c.toNat ≤ 90
  · rw [dif_pos (capital.mpr own), if_pos own, Char.toNat, UInt32.toNat_add, gap]
    omega
  · rw [dif_neg (mt capital.mp own), if_neg own]

theorem to_nat_to_upper (c : Char) :
    c.toUpper.toNat = if 97 ≤ c.toNat ∧ c.toNat ≤ 122 then c.toNat - 32 else c.toNat := by
  have small : 'a'.val ≤ c.val ∧ c.val ≤ 'z'.val ↔ 97 ≤ c.toNat ∧ c.toNat ≤ 122 := Iff.rfl
  have gap : ('A'.val - 'a'.val).toNat = 2 ^ 32 - 32 := rfl
  have number : c.val.toNat = c.toNat := rfl
  unfold Char.toUpper
  by_cases own : 97 ≤ c.toNat ∧ c.toNat ≤ 122
  · rw [dif_pos (small.mpr own), if_pos own, Char.toNat, UInt32.toNat_add, gap]
    omega
  · rw [dif_neg (mt small.mp own), if_neg own]

theorem to_upper_eq_iff : c.toUpper = d.toUpper ↔ c.toLower = d.toLower := by
  rw [← Char.toNat_inj, ← Char.toNat_inj]
  simp only [to_nat_to_lower, to_nat_to_upper]
  split_ifs <;> omega

theorem of_nat_number (n : Nat) : (Char.ofNat n).toNat = n ∨ Char.ofNat n = '\x00' := by
  by_cases valid : n.isValidChar
  · have own : Char.ofNat n = Char.ofNatAux n valid := dif_pos valid
    exact .inl (own ▸ rfl)
  · exact .inr (dif_neg valid)

/-- A letter that only its two cases become. -/
def IsPlain (c : Char) : Prop := c.toNat < 0x80 ∧ c ≠ 'k' ∧ c ≠ '\x00'

instance : DecidablePred IsPlain := fun c =>
  inferInstanceAs (Decidable (c.toNat < 0x80 ∧ c ≠ 'k' ∧ c ≠ '\x00'))

/-- Each run leads beyond ASCII, or lies within it, or is that of the sign for kelvin. -/
theorem run_beyond : ∀ r ∈ caseRuns,
    r.last < 0x80 ∨ 0x80 ≤ (r.first : Int) + r.shift ∨
      (r.first = 0x212a ∧ r.last = 0x212a ∧ r.shift = -8383) := by
  decide +kernel

theorem shifted_beyond (beyond : 0x80 ≤ c.toNat) (shifted : shifted? caseRuns c = some d) :
    ¬ IsPlain d := by
  obtain ⟨r, found, rfl⟩ := Option.map_eq_some_iff.mp shifted
  have holds := List.find?_some found
  simp only [ShiftRun.holds, Bool.and_eq_true, decide_eq_true_eq] at holds
  obtain ⟨⟨least, most⟩, -⟩ := holds
  rintro ⟨small, other, some⟩
  rcases run_beyond r (List.mem_of_find?_eq_some found) with within | leads | ⟨first, last, shift⟩
  · omega
  · rcases of_nat_number ((c.toNat : Int) + r.shift).toNat with same | none
    · omega
    · exact some none
  · have kelvin : c.toNat = 0x212a := by omega
    rw [kelvin, shift] at other
    exact other rfl

theorem lower_char_beyond (beyond : 0x80 ≤ c.toNat) : ¬ IsPlain (lowerChar c) := by
  unfold lowerChar
  rw [if_neg (by omega)]
  cases shifted : shifted? caseRuns c with
  | none =>
    rintro ⟨small, -⟩
    rw [Option.getD_none] at small
    omega
  | some d => exact shifted_beyond beyond shifted

theorem lower_char_iff (plain : IsPlain d) : lowerChar c = d ↔ c.toLower = d := by
  by_cases small : c.toNat < 0x80
  · rw [lowerChar, if_pos small]
  · have beyond : 0x80 ≤ c.toNat := Nat.le_of_not_lt small
    constructor
    · rintro rfl
      exact absurd plain (lower_char_beyond beyond)
    · rintro rfl
      have kept := plain.1
      rw [to_nat_to_lower] at kept
      split_ifs at kept <;> omega

end Letters

def isPlainWord (w : String) : Bool := w.toList.all fun c => IsPlain c ∧ c.toLower = c

section Words
variable {word : List Char}

theorem beyond_ne {c d : Char} (plain : IsPlain d) (beyond : 0x80 ≤ c.toNat) : c ≠ d := by
  rintro rfl
  exact Nat.not_lt.mpr beyond plain.1

/-- By induction on the text. What stands before decides about a final sigma only, and that is no
    letter of the word in either of its forms. -/
theorem lower_from_iff (plain : ∀ c ∈ word, IsPlain c) (before cs : List Char) :
    lowerFrom before cs = word ↔ cs.map Char.toLower = word := by
  induction cs generalizing before word with
  | nil => rfl
  | cons c cs ih =>
    rw [lowerFrom, List.map_cons]
    cases word with
    | nil => split_ifs <;> simp
    | cons d word =>
      obtain ⟨own, others⟩ := List.forall_mem_cons.mp plain
      rw [List.cons.injEq]
      split_ifs with sigma final dotted
      case pos | neg =>
        subst sigma
        simp [beyond_ne own (c := '\u03c2') (by decide), beyond_ne own (c := '\u03c3') (by decide),
          beyond_ne own (c := '\u03a3') (by decide)]
      case pos =>
        subst dotted
        have accent : ∀ rest, '\u0307' :: rest ≠ word := by
          rintro rest rfl
          exact beyond_ne (others _ List.mem_cons_self) (by decide) rfl
        simp [accent, beyond_ne own (c := '\u0130') (by decide)]
      case neg =>
        rw [List.singleton_append, List.cons.injEq, lower_char_iff own, ih others]

theorem lowercase_eq_iff {s w : String} (plain : isPlainWord w) :
    lowercase s = w ↔ SameWord s w := by
  have each : ∀ c ∈ w.toList, IsPlain c ∧ c.toLower = c := by
    simpa [isPlainWord] using plain
  have own : w.toList.map Char.toLower = w.toList :=
    (List.map_congr_left fun c member => (each c member).2).trans (List.map_id _)
  rw [SameWord, own, ← lower_from_iff (fun c member => (each c member).1) [], lowercase,
    ← String.toList_inj, String.toList_ofList]

theorem map_upper_iff {cs ds : List Char} :
    cs.map Char.toUpper = ds.map Char.toUpper ↔ cs.map Char.toLower = ds.map Char.toLower := by
  induction cs generalizing ds with
  | nil => simp
  | cons c cs ih =>
    cases ds with
    | nil => simp
    | cons d ds => simp only [List.map_cons, List.cons.injEq, to_upper_eq_iff, ih]

theorem uppercase_eq_iff {s w : String} (capital : w.toList.map Char.toUpper = w.toList) :
    s.map Char.toUpper = w ↔ SameWord s w := by
  rw [SameWord, ← map_upper_iff, capital, ← String.toList_inj, String.toList_map]

end Words
end CommandGateway.Text
