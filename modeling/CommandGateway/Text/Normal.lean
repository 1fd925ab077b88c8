import CommandGateway.Text.NormalTable

/- Composed text: characters that two others could spell are single, and marks on one character
   stand in the order of their classes. This is Unicode's normal form C of a text without the
   characters that no composed text has. -/
namespace CommandGateway.Text

/-- Where a mark goes among others. Class zero is not moved, and nothing moves past it. -/
def combiningClass (c : Char) : Nat :=
  match combiningClasses.find? fun r => r.first ≤ c.toNat && c.toNat ≤ r.last with
  | some r => r.value
  | none => 0

def firstLead : Nat := 0x1100

def firstVowel : Nat := 0x1161

def noTail : Nat := 0x11a7

def firstSyllable : Nat := 0xac00

def leadCount : Nat := 19

def vowelCount : Nat := 21

def tailCount : Nat := 28

/-- A syllable of Hangul is a lead and a vowel, or one of these with a tail. -/
def composeHangul? (a b : Nat) : Option Nat :=
  if firstLead ≤ a ∧ a < firstLead + leadCount ∧ firstVowel ≤ b ∧ b < firstVowel + vowelCount then
    some (firstSyllable + ((a - firstLead) * vowelCount + (b - firstVowel)) * tailCount)
  else if firstSyllable ≤ a ∧ a < firstSyllable + leadCount * vowelCount * tailCount ∧
      (a - firstSyllable) % tailCount = 0 ∧ noTail < b ∧ b < noTail + tailCount then
    some (a + (b - noTail))
  else none

def splitHangul? (n : Nat) : Option (Nat × Nat) :=
  if firstSyllable ≤ n ∧ n < firstSyllable + leadCount * vowelCount * tailCount then
    let place := n - firstSyllable
    if place % tailCount = 0 then
      some (firstLead + place / tailCount / vowelCount,
        firstVowel + place / tailCount % vowelCount)
    else some (n - place % tailCount, noTail + place % tailCount)
  else none

def compose? (a b : Char) : Option Char :=
  let found := (composites.find? fun r => r.first = a.toNat && r.second = b.toNat).map (·.whole)
  (found.or (composeHangul? a.toNat b.toNat)).map Char.ofNat

def split? (c : Char) : Option (Char × Char) :=
  let found := (composites.find? (·.whole = c.toNat)).map fun r => (r.first, r.second)
  (found.or (splitHangul? c.toNat)).map fun (a, b) => (Char.ofNat a, Char.ofNat b)

def spellFrom (fuel : Nat) (c : Char) : List Char :=
  match fuel with
  | 0 => [c]
  | fuel + 1 =>
    match split? c with
    | some (a, b) => spellFrom fuel a ++ [b]
    | none => [c]

def spell (c : Char) : List Char := spellFrom 3 c

/-- Puts a mark behind those of lower class in front of which it stands. -/
def placeMark (c : Char) : List Char → List Char
  | [] => [c]
  | d :: ds =>
    if 0 < combiningClass d ∧ combiningClass d < combiningClass c then d :: placeMark c ds
    else c :: d :: ds

def orderMarks : List Char → List Char
  | [] => []
  | c :: cs => placeMark c (orderMarks cs)

/-- Goes on behind `base` and the marks on it, latest first, that did not combine with it. A mark
    of the same class as the one before cannot reach the base. -/
def composeFrom (base : Char) (marks : List Char) : List Char → List Char
  | [] => base :: marks.reverse
  | c :: cs =>
    let reaches :=
      match marks with
      | [] => true
      | m :: _ => combiningClass m < combiningClass c
    match if reaches then compose? base c else none with
    | some whole => composeFrom whole marks cs
    | none =>
      if combiningClass c = 0 then base :: marks.reverse ++ composeFrom c [] cs
      else composeFrom base (c :: marks) cs

def composeAll (cs : List Char) : List Char :=
  let loose := cs.takeWhile fun c => 0 < combiningClass c
  match cs.drop loose.length with
  | [] => loose
  | base :: rest => loose ++ composeFrom base [] rest

def composed (cs : List Char) : List Char := composeAll (orderMarks (cs.flatMap spell))

end CommandGateway.Text
