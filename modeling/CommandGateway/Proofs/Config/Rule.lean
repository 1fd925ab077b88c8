import CommandGateway.Config
import CommandGateway.Proofs.Json.Spelling
import CommandGateway.Proofs.Text.Case

/- What the value of a variable may be. The variables share a few rules; each says which values are
   taken, and what for, and the reader of the rule takes just those. -/
namespace CommandGateway

section Numerals
variable {bound n : Nat} {s : String} {c : Char}

/-- Decimal digits, with a plus sign in front or without. -/
def Numeral (s : String) (n : Nat) : Prop :=
  ∃ digits, (s.toList = digits ∨ s.toList = '+' :: digits) ∧ digits ≠ [] ∧
    (∀ c ∈ digits, c.isDigit) ∧ Nat.ofDigitChars 10 digits 0 = n

theorem is_digit_iff : c.isDigit ↔ 0x30 ≤ c.toNat ∧ c.toNat ≤ 0x39 := by
  simp only [Char.isDigit, Bool.and_eq_true, decide_eq_true_eq]
  exact Iff.rfl

theorem decimal_digit_iff {d : Nat} :
    Net.digitOf? 10 c = some d ↔ c.isDigit ∧ c.toNat - '0'.toNat = d := by
  have zero : '0'.toNat = 0x30 := rfl
  rw [is_digit_iff, zero, Net.digitOf?]
  split_ifs <;> simp only [Option.some.injEq, false_iff] <;> omega

/-- By induction on the digits. A numeral is within the bound as soon as all of it is, for it only
    grows digit by digit. -/
theorem read_digits_iff {value : Nat} {cs : List Char} :
    readDigits bound value cs = .ok n ↔
      (∀ c ∈ cs, c.isDigit) ∧ Nat.ofDigitChars 10 cs value = n ∧ (cs = [] ∨ n < bound) := by
  induction cs generalizing value with
  | nil => simp [readDigits]
  | cons c cs ih =>
    rw [readDigits, Nat.ofDigitChars_cons, List.forall_mem_cons]
    cases digit : Net.digitOf? 10 c with
    | none =>
      have other : ¬ c.isDigit := by
        intro own
        simp [decimal_digit_iff.mpr ⟨own, rfl⟩] at digit
      simp [other]
    | some d =>
      obtain ⟨own, rfl⟩ := decimal_digit_iff.mp digit
      have grows := Json.le_of_digit_chars cs (10 * value + (c.toNat - '0'.toNat))
      simp only [own, true_and, reduceCtorEq, false_or, Nat.mul_comm value 10]
      split_ifs with fits
      · rw [ih]
        constructor
        · rintro ⟨digits, rfl, rfl | below⟩
          · exact ⟨digits, rfl, fits⟩
          · exact ⟨digits, rfl, below⟩
        · rintro ⟨digits, rfl, below⟩
          exact ⟨digits, rfl, .inr below⟩
      · simp only [false_iff, not_and]
        rintro - rfl below
        exact fits (Nat.lt_of_le_of_lt grows below)

theorem numeral_iff {digits : List Char}
    (spelt : s.toList = '+' :: digits ∨ s.toList = digits ∧ ∀ ds, digits ≠ '+' :: ds) :
    Numeral s n ↔ digits ≠ [] ∧ (∀ c ∈ digits, c.isDigit) ∧ Nat.ofDigitChars 10 digits 0 = n := by
  constructor
  · rintro ⟨ds, same, some, own, value⟩
    -- a plus sign is no digit, so there is only one way to take one off
    obtain rfl : ds = digits := by
      rcases spelt with spelt | ⟨spelt, bare⟩
      · rcases same with same | same
        · have sign : '+'.isDigit := own '+' (by simp [← same, spelt])
          contradiction
        · exact List.tail_eq_of_cons_eq (same.symm.trans spelt)
      · rcases same with same | same
        · exact same.symm.trans spelt
        · exact absurd (spelt.symm.trans same) (bare ds)
    exact ⟨some, own, value⟩
  · rintro ⟨some, own, value⟩
    exact ⟨digits, spelt.symm.imp_left And.left, some, own, value⟩

theorem read_natural_iff : readNatural bound s = .ok n ↔ Numeral s n ∧ n < bound := by
  unfold readNatural
  split
  case h_1 empty => simp [numeral_iff (.inr ⟨empty, by simp⟩)]
  case h_2 sign => simp [numeral_iff (.inl sign)]
  case h_3 digits some spelt =>
    have some : digits ≠ [] := some
    simp [numeral_iff (.inl spelt), read_digits_iff, some, and_assoc]
  case h_4 some alone plus =>
    have some : s.toList ≠ [] := some
    simp [numeral_iff (.inr ⟨rfl, plus⟩), read_digits_iff, some, and_assoc]

theorem natural_iff : naturalOf bound s = .ok n ↔ Numeral s n ∧ n < bound := by
  rw [← read_natural_iff, naturalOf]
  split <;> simp_all

theorem count_iff : countOf s = .ok n ↔ Numeral s n ∧ 1 ≤ n ∧ n < countBound := by
  rw [and_left_comm, ← natural_iff, countOf]
  cases read : naturalOf countBound s with
  | error reason => simp
  | ok m =>
    cases m with
    | zero =>
      simp only [reduceCtorEq, Except.ok.injEq, false_iff]
      omega
    | succ m =>
      simp only [Except.ok.injEq]
      omega

end Numerals

inductive Setting where
  | address (a : Net.Socket)
  | text (s : String)
  | number (n : Nat)
  | flag (b : Bool)
  | mode (m : ExecutionMode)
  | level (l : Level)
  deriving DecidableEq

inductive Rule where
  | address
  | host
  | natural (bound : Nat)
  | count
  | flag
  | mode
  | text
  | path
  | level

def flagWords : Bool → List String
  | true => ["1", "true", "yes", "on"]
  | false => ["0", "false", "no", "off"]

structure PathForm (s : String) : Prop where
  rooted : s.toList.head? = some '/'
  long : 2 ≤ s.toList.length
  ended : s.toList.getLast? ≠ some '/'
  plain : ∀ c ∈ s.toList, c.isAlpha ∨ c.isDigit ∨ c ∈ ['/', '-', '_', '.']

/-- The values that a rule takes. Blanks at the ends do not count where it is a matter of one word;
    the level is the exception. -/
inductive Rule.Takes : Rule → String → Setting → Prop
  | address {raw : String} {a : Net.Socket} (read : Net.Socket.ofText? (Text.trim raw) = some a) :
      Takes .address raw (.address a)
  | host {raw : String} (visible : ∃ c ∈ raw.toList, Text.isBlank c = false) :
      Takes .host raw (.text raw)
  | natural {bound n : Nat} {raw : String} (numeral : Numeral (Text.trim raw) n)
      (fits : n < bound) : Takes (.natural bound) raw (.number n)
  | count {n : Nat} {raw : String} (numeral : Numeral (Text.trim raw) n) (least : 1 ≤ n)
      (fits : n < 2 ^ 64) : Takes .count raw (.number n)
  | flag {b : Bool} {raw word : String} (known : word ∈ flagWords b)
      (same : Text.SameWord (Text.trim raw) word) : Takes .flag raw (.flag b)
  | mode {m : ExecutionMode} {raw : String} (same : Text.SameWord (Text.trim raw) m.name) :
      Takes .mode raw (.mode m)
  | text {raw : String} : Takes .text raw (.text raw)
  | path {raw : String} (form : PathForm raw) : Takes .path raw (.text raw)
  | levelNumber {n : Nat} {l : Level} {raw : String} (numeral : Numeral raw (n + 1))
      (known : [Level.error, .warn, .info, .debug, .trace][n]? = some l) :
      Takes .level raw (.level l)
  | levelName {l : Level} {raw : String} (same : Text.SameWord raw l.name) :
      Takes .level raw (.level l)

def hostOf (raw : String) : Except String String :=
  if Text.isBlankText raw then .error "must not be empty" else .ok raw

def Rule.read : Rule → String → Except String Setting
  | .address, raw => (addressOf (Text.trim raw)).map .address
  | .host, raw => (hostOf raw).map .text
  | .natural bound, raw => (naturalOf bound (Text.trim raw)).map .number
  | .count, raw => (countOf (Text.trim raw)).map .number
  | .flag, raw => (flagOf raw).map .flag
  | .mode, raw => (ExecutionMode.ofText (Text.trim raw)).map .mode
  | .text, raw => .ok (.text raw)
  | .path, raw => (pathOf raw).map .text
  | .level, raw => (levelOf raw).map .level

section Words
variable {raw s : String}

theorem map_ok_iff {α β ε : Type} {x : Except ε α} {f : α → β} {b : β} :
    x.map f = .ok b ↔ ∃ a, x = .ok a ∧ f a = b := by
  cases x <;> simp [Except.map]

theorem address_iff {a : Net.Socket} : addressOf s = .ok a ↔ Net.Socket.ofText? s = some a := by
  unfold addressOf
  split <;> simp_all

theorem host_iff : hostOf raw = .ok s ↔ raw = s ∧ ∃ c ∈ raw.toList, Text.isBlank c = false := by
  unfold hostOf Text.isBlankText
  split <;> simp_all

theorem flag_words_plain : ∀ b, ∀ word ∈ flagWords b, Text.isPlainWord word := by decide

theorem flag_words_apart : ∀ word ∈ flagWords false, word ∉ flagWords true := by decide

theorem flag_iff {b : Bool} :
    flagOf raw = .ok b ↔ ∃ word ∈ flagWords b, Text.SameWord (Text.trim raw) word := by
  have listed (b : Bool) : Text.lowercase (Text.trim raw) ∈ flagWords b ↔
      ∃ word ∈ flagWords b, Text.SameWord (Text.trim raw) word := by
    constructor
    · intro member
      exact ⟨_, member, (Text.lowercase_eq_iff (flag_words_plain b _ member)).mp rfl⟩
    · rintro ⟨word, member, same⟩
      exact (Text.lowercase_eq_iff (flag_words_plain b word member)).mpr same ▸ member
  rw [← listed b]
  unfold flagOf
  simp only [List.contains_iff_mem]
  change (if _ ∈ flagWords true then _ else if _ ∈ flagWords false then _ else _) = _ ↔ _
  split_ifs with yes no
  · cases b
    · simpa using fun no => flag_words_apart _ no yes
    · simpa using yes
  · cases b
    · simpa using no
    · simpa using yes
  · cases b <;> simpa

theorem mode_iff {m : ExecutionMode} : ExecutionMode.ofText s = .ok m ↔ Text.SameWord s m.name := by
  have plain (m : ExecutionMode) : Text.isPlainWord m.name := by cases m <;> decide
  rw [← Text.lowercase_eq_iff (plain m)]
  unfold ExecutionMode.ofText
  simp only
  split_ifs with sync async
  · cases m <;> simp [sync, ExecutionMode.name]
  · cases m <;> simp [async, ExecutionMode.name]
  · cases m <;> simp [sync, async, ExecutionMode.name]

theorem path_iff : pathOf raw = .ok s ↔ raw = s ∧ PathForm raw := by
  have form : PathForm raw ↔ raw.toList.head? = some '/' ∧ 2 ≤ raw.toList.length ∧
      raw.toList.getLast? ≠ some '/' ∧ raw.toList.all isPathChar := by
    constructor
    · rintro ⟨rooted, long, ended, plain⟩
      refine ⟨rooted, long, ended, List.all_eq_true.mpr fun c member => ?_⟩
      have own := plain c member
      simpa [isPathChar, Char.isAlphanum, or_assoc] using own
    · rintro ⟨rooted, long, ended, plain⟩
      refine ⟨rooted, long, ended, fun c member => ?_⟩
      have own := List.all_eq_true.mp plain c member
      simpa [isPathChar, Char.isAlphanum, or_assoc] using own
  unfold pathOf
  simp only
  rw [form]
  split_ifs with ok
  · simp only [Except.ok.injEq, ok, and_self, and_true, ne_eq, not_false_eq_true]
  · refine iff_of_false (by simp) ?_
    rintro ⟨-, good⟩
    exact ok good

theorem numeral_no_level {n : Nat} {l : Level} (numeral : Numeral raw n) :
    ¬ Text.SameWord raw l.name := by
  intro same
  have opening : ∃ c cs, raw.toList = c :: cs ∧ c.toNat ≤ 0x39 := by
    obtain ⟨digits, spelt | spelt, some, own, -⟩ := numeral
    · obtain ⟨c, cs, rfl⟩ := List.exists_cons_of_ne_nil some
      exact ⟨c, cs, spelt, (is_digit_iff.mp (own c List.mem_cons_self)).2⟩
    · exact ⟨'+', digits, spelt, by decide⟩
  have letter : ∃ d ds, l.name.toList.map Char.toLower = d :: ds ∧ 0x61 ≤ d.toNat := by
    cases l <;> exact ⟨_, _, rfl, by decide⟩
  obtain ⟨c, cs, spelt, most⟩ := opening
  obtain ⟨d, ds, named, least⟩ := letter
  rw [Text.SameWord, spelt, named, List.map_cons] at same
  obtain ⟨rfl, -⟩ := List.cons.inj same
  rw [Text.to_nat_to_lower] at least
  split_ifs at least <;> omega

theorem numbered_iff {l : Level} : (match readNatural countBound raw with
      | .ok 0 => none
      | .ok (n + 1) => levels[n]?
      | .error _ => none) = some l ↔ ∃ n, Numeral raw (n + 1) ∧ levels[n]? = some l := by
  constructor
  · intro known
    split at known
    · cases known
    · rename_i n read
      exact ⟨n, (read_natural_iff.mp read).1, known⟩
    · cases known
  · rintro ⟨n, numeral, known⟩
    have few : n < levels.length := (List.getElem?_eq_some_iff.mp known).1
    have read : readNatural countBound raw = .ok (n + 1) :=
      read_natural_iff.mpr ⟨numeral, Nat.lt_of_le_of_lt few (by decide)⟩
    rw [read]
    exact known

theorem named_iff {l : Level} :
    (levels.find? fun level => level.name = raw.map Char.toUpper) = some l ↔
      Text.SameWord raw l.name := by
  have capital (l : Level) : l.name.toList.map Char.toUpper = l.name.toList := by
    cases l <;> rfl
  rw [← Text.uppercase_eq_iff (capital l)]
  constructor
  · intro found
    simpa [eq_comm] using List.find?_some found
  · intro same
    rw [same]
    cases l <;> rfl

theorem level_iff {l : Level} : levelOf raw = .ok l ↔
    (∃ n, Numeral raw (n + 1) ∧ levels[n]? = some l) ∨ Text.SameWord raw l.name := by
  rw [← numbered_iff, ← named_iff]
  unfold levelOf
  extract_lets numbered upper named
  change _ ↔ numbered = some l ∨ named = some l
  cases first : numbered with
  | none => cases second : named <;> simp
  | some l' =>
    obtain ⟨n, numeral, -⟩ := numbered_iff.mp first
    have other : ∀ l, named ≠ some l := fun l same => numeral_no_level numeral (named_iff.mp same)
    simp [other]

end Words

section Rules
variable {rule : Rule} {raw : String} {s s' : Setting}

theorem takes_iff : rule.read raw = .ok s ↔ rule.Takes raw s := by
  constructor
  · intro read
    cases rule <;> simp only [Rule.read, map_ok_iff] at read
    case text => exact Except.ok.inj read ▸ .text
    all_goals obtain ⟨a, read, rfl⟩ := read
    case address => exact .address (address_iff.mp read)
    case host =>
      obtain ⟨rfl, visible⟩ := host_iff.mp read
      exact .host visible
    case natural =>
      obtain ⟨numeral, fits⟩ := natural_iff.mp read
      exact .natural numeral fits
    case count =>
      obtain ⟨numeral, least, fits⟩ := count_iff.mp read
      exact .count numeral least fits
    case flag =>
      obtain ⟨word, known, same⟩ := flag_iff.mp read
      exact .flag known same
    case mode => exact .mode (mode_iff.mp read)
    case path =>
      obtain ⟨rfl, form⟩ := path_iff.mp read
      exact .path form
    case level =>
      rcases level_iff.mp read with ⟨n, numeral, known⟩ | same
      · exact .levelNumber numeral known
      · exact .levelName same
  · intro takes
    unfold Rule.read
    cases takes with
    | address read => exact map_ok_iff.mpr ⟨_, address_iff.mpr read, rfl⟩
    | host visible => exact map_ok_iff.mpr ⟨_, host_iff.mpr ⟨rfl, visible⟩, rfl⟩
    | natural numeral fits => exact map_ok_iff.mpr ⟨_, natural_iff.mpr ⟨numeral, fits⟩, rfl⟩
    | count numeral least fits =>
      exact map_ok_iff.mpr ⟨_, count_iff.mpr ⟨numeral, least, fits⟩, rfl⟩
    | flag known same => exact map_ok_iff.mpr ⟨_, flag_iff.mpr ⟨_, known, same⟩, rfl⟩
    | mode same => exact map_ok_iff.mpr ⟨_, mode_iff.mpr same, rfl⟩
    | text => rfl
    | path form => exact map_ok_iff.mpr ⟨_, path_iff.mpr ⟨rfl, form⟩, rfl⟩
    | levelNumber numeral known =>
      exact map_ok_iff.mpr ⟨_, level_iff.mpr (.inl ⟨_, numeral, known⟩), rfl⟩
    | levelName same => exact map_ok_iff.mpr ⟨_, level_iff.mpr (.inr same), rfl⟩

theorem takes_unique (takes : rule.Takes raw s) (takes' : rule.Takes raw s') : s = s' :=
  Except.ok.inj ((takes_iff.mpr takes).symm.trans (takes_iff.mpr takes'))

end Rules
end CommandGateway
