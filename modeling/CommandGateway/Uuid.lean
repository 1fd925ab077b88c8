import CommandGateway.Json.Quoted
import CommandGateway.Text.Pieces

/- Job ids: 32 hex digits, written in lower case in five groups. They may also be given without
   hyphens, in braces, or as a name of the `urn` scheme, in either case of letters. -/
namespace CommandGateway

structure Uuid where
  digits : List (Fin 16)
  size : digits.length = 32
  deriving DecidableEq

namespace Uuid

def digitChar (d : Fin 16) : Char := (Nat.toDigits 16 d.val).headD '0'

def digitOf? (c : Char) : Option (Fin 16) :=
  if c.toNat < 0x80 then (Json.hexValue? c.toNat.toUInt8).map (Fin.ofNat 16) else none

def ofNat (n : Nat) : Uuid :=
  ⟨(List.range 32).map fun i => Fin.ofNat 16 (n / Nat.pow 16 (31 - i)), by simp⟩

def groups : List Nat := [8, 4, 4, 4, 12]

def cut {α : Type} : List Nat → List α → List (List α)
  | [], _ => []
  | n :: ns, xs => xs.take n :: cut ns (xs.drop n)

def text (u : Uuid) : String :=
  String.ofList (['-'].intercalate (cut groups (u.digits.map digitChar)))

inductive Fault where
  | character (c : Char) (index : Nat)
  | length (found : Nat)
  | groupCount (found : Nat)
  | groupLength (group expected found : Nat)
  deriving DecidableEq, Repr

def Fault.message : Fault → String
  | .character c index =>
    "invalid character: found `" ++ String.singleton c ++ "` at " ++ toString index
  | .length found => "invalid length: found " ++ toString found
  | .groupCount found => "invalid group count: expected 5, found " ++ toString found
  | .groupLength group expected found =>
    "invalid group length in group " ++ toString group ++ ": expected " ++ toString expected ++
      ", found " ++ toString found

def ofDigits? (cs : List Char) : Option Uuid :=
  match cs.mapM digitOf? with
  | none => none
  | some digits => if h : digits.length = 32 then some ⟨digits, h⟩ else none

def parts (cs : List Char) : List (List Char) := Text.pieces (· = '-') cs

def ofGroups? (cs : List Char) : Option Uuid :=
  let ps := parts cs
  if ps.map List.length = groups then ofDigits? ps.flatten else none

def urn : List Char := "urn:uuid:".toList

def unwrap (cs : List Char) : Option (List Char) :=
  if urn.isPrefixOf (cs.map Char.toLower) then some (cs.drop urn.length)
  else
    match cs with
    | '\x7b' :: rest => if rest.getLast? = some '\x7d' then some rest.dropLast else none
    | _ => none

def strangeCharacter (index : Nat) : List Char → Option Fault
  | [] => none
  | c :: cs =>
    if c = '-' ∨ (digitOf? c).isSome then strangeCharacter (index + 1) cs
    else some (.character c index)

def wrongGroup (group : Nat) : List (List Char) → List Nat → Option Fault
  | p :: ps, n :: ns =>
    if p.length = n then wrongGroup (group + 1) ps ns else some (.groupLength group n p.length)
  | _, _ => none

def longest : Nat := 45

def byteCount (cs : List Char) : Nat := (String.ofList cs).utf8ByteSize

/-- Why a text is no id. Places are counted inside braces or behind the scheme; the length of the
    last group is told as the rest of the whole text. -/
def diagnose (cs : List Char) : Fault :=
  let inner := (unwrap cs).getD cs
  let ps := parts inner
  if longest < byteCount cs then .length (byteCount cs)
  else
    match strangeCharacter 0 inner with
    | some fault => fault
    | none =>
      if ps.length = 1 ∧ (unwrap cs).isNone then .length cs.length
      else if ps.length ≠ 5 then .groupCount ps.length
      else (wrongGroup 0 (ps.take 4) groups).getD (.groupLength 4 12 (cs.length - 24))

def parse (s : String) : Except Fault Uuid :=
  let cs := s.toList
  let found := if cs.length = 32 then ofDigits? cs else ofGroups? ((unwrap cs).getD cs)
  match found with
  | some u => .ok u
  | none => .error (diagnose cs)

end Uuid
end CommandGateway
