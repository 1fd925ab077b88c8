/- Internet addresses: four octets, or eight groups of sixteen bits. In the text of the latter the
   first of the longest runs of zero groups is left out, if it has at least two. -/
namespace CommandGateway.Net

structure V4 where
  a : Fin 256
  b : Fin 256
  c : Fin 256
  d : Fin 256
  deriving DecidableEq

structure V6 where
  groups : List (Fin 65536)
  size : groups.length = 8
  deriving DecidableEq

def octetText (n : Fin 256) : String := toString n.val

def V4.text (v : V4) : String :=
  ".".intercalate [octetText v.a, octetText v.b, octetText v.c, octetText v.d]

def V4.ofNat? (n : Nat) : Option V4 :=
  if n < Nat.pow 2 32 then
    some ⟨Fin.ofNat 256 (n / Nat.pow 2 24), Fin.ofNat 256 (n / Nat.pow 2 16),
      Fin.ofNat 256 (n / Nat.pow 2 8), Fin.ofNat 256 n⟩
  else none

/-- To listen here is to listen at every address. -/
def V4.unspecified : V4 := ⟨Fin.ofNat 256 0, Fin.ofNat 256 0, Fin.ofNat 256 0, Fin.ofNat 256 0⟩

def V6.ofGroups? (groups : List Nat) : Option V6 :=
  if h : (groups.map (Fin.ofNat 65536)).length = 8 then some ⟨groups.map (Fin.ofNat 65536), h⟩
  else none

def groupText (g : Fin 65536) : String := String.ofList (Nat.toDigits 16 g.val)

def zerosAhead (gs : List (Fin 65536)) : Nat := (gs.takeWhile (· = 0)).length

/-- The place and length of the first of the longest runs of zeros; `best` is the one so far. -/
def longestZeros (best : Nat × Nat) (place : Nat) : List (Fin 65536) → Nat × Nat
  | [] => best
  | g :: gs =>
    let n := zerosAhead (g :: gs)
    longestZeros (if best.2 < n then (place, n) else best) (place + 1) gs

def groupsText (gs : List (Fin 65536)) : String := ":".intercalate (gs.map groupText)

def V6.hexText (v : V6) : String :=
  let (place, n) := longestZeros (0, 0) 0 v.groups
  if 1 < n then groupsText (v.groups.take place) ++ "::" ++ groupsText (v.groups.drop (place + n))
  else groupsText v.groups

/-- An address that stands for one of four octets shows them. -/
def V6.text (v : V6) : String :=
  match v.groups with
  | [0, 0, 0, 0, 0, 65535, g, h] =>
    match V4.ofNat? (g.val * 65536 + h.val) with
    | some v4 => "::ffff:" ++ v4.text
    | none => v.hexText
  | _ => v.hexText

def digitOf? (radix : Nat) (c : Char) : Option Nat :=
  let n := c.toNat
  let value :=
    if 0x30 ≤ n ∧ n ≤ 0x39 then n - 0x30
    else if 0x61 ≤ n ∧ n ≤ 0x66 then n - 0x61 + 10
    else if 0x41 ≤ n ∧ n ≤ 0x46 then n - 0x41 + 10
    else 36
  if value < radix then some value else none

def valueOf (radix : Nat) (digits : List Char) : Nat :=
  digits.foldl (fun n c => n * radix + (digitOf? radix c).getD 0) 0

def readNumber (radix bound : Nat) (cs : List Char) : Option (Nat × List Char) :=
  let digits := cs.takeWhile fun c => (digitOf? radix c).isSome
  let value := valueOf radix digits
  if digits ≠ [] ∧ value < bound then some (value, cs.drop digits.length) else none

def readOctet (cs : List Char) : Option (Fin 256 × List Char) :=
  match readNumber 10 256 cs with
  | some (n, rest) =>
    if toString n = String.ofList (cs.take (cs.length - rest.length)) then
      some (Fin.ofNat 256 n, rest)
    else none
  | none => none

def skipChar (c : Char) : List Char → Option (List Char)
  | [] => none
  | d :: rest => if d = c then some rest else none

def readV4 (cs : List Char) : Option (V4 × List Char) := do
  let (a, cs) ← readOctet cs
  let cs ← skipChar '.' cs
  let (b, cs) ← readOctet cs
  let cs ← skipChar '.' cs
  let (c, cs) ← readOctet cs
  let cs ← skipChar '.' cs
  let (d, cs) ← readOctet cs
  some (⟨a, b, c, d⟩, cs)

def readGroup (cs : List Char) : Option (Nat × List Char) :=
  match readNumber 16 65536 cs with
  | some (n, rest) => if cs.length - rest.length ≤ 4 then some (n, rest) else none
  | none => none

/-- At most `room` groups with colons between them; the last two may be written as four octets.
    Also tells whether they are. -/
def readGroups (first : Bool) : Nat → List Char → List Nat × Bool × List Char
  | 0, cs => ([], false, cs)
  | room + 1, cs =>
    match if first then some cs else skipChar ':' cs with
    | none => ([], false, cs)
    | some inner =>
      match if 0 < room then readV4 inner else none with
      | some (v, rest) => ([v.a.val * 256 + v.b.val, v.c.val * 256 + v.d.val], true, rest)
      | none =>
        match readGroup inner with
        | none => ([], false, cs)
        | some (g, rest) =>
          let (gs, dotted, rest) := readGroups false room rest
          (g :: gs, dotted, rest)

/-- Two colons stand for as many zero groups as are missing, at least one. -/
def readV6 (cs : List Char) : Option (V6 × List Char) :=
  let (front, dotted, rest) := readGroups true 8 cs
  if front.length = 8 then (V6.ofGroups? front).map (·, rest)
  else if dotted then none
  else
    match (skipChar ':' rest).bind (skipChar ':') with
    | none => none
    | some rest =>
      let (back, _, rest) := readGroups true (7 - front.length) rest
      let gap := List.replicate (8 - front.length - back.length) 0
      (V6.ofGroups? (front ++ gap ++ back)).map (·, rest)

end CommandGateway.Net
