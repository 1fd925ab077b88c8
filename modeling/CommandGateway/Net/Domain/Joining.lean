import CommandGateway.Net.Domain.JoiningTable
import CommandGateway.Text.Normal
import CommandGateway.Text.Ranges

/- The two joiners have no shape. A label may have one only where it changes how its neighbours
   are written: behind a sign that kills a vowel, and one of them between letters that would join
   otherwise. -/
namespace CommandGateway.Net

def nonJoiner : Char := '\u200c'

def joiner : Char := '\u200d'

def viramaClass : Nat := 9

/-- The nearest letter that does not stand between others is in one of the tables. -/
def joins (tables : List (List (Nat × Nat))) (cs : List Char) : Bool :=
  match cs.dropWhile (Text.inRanges transparent) with
  | c :: _ => tables.any (Text.inRanges · c)
  | [] => false

/-- Whether a joiner may stand behind `before`, latest first, and in front of `after`. -/
def joinerFits (c : Char) (before after : List Char) : Bool :=
  match before with
  | [] => false
  | d :: _ =>
    Text.combiningClass d = viramaClass ||
      (c = nonJoiner && joins [leftJoining, dualJoining] before &&
        joins [rightJoining, dualJoining] after)

def joinersFit (before : List Char) : List Char → Bool
  | [] => true
  | c :: cs =>
    (if c = nonJoiner ∨ c = joiner then joinerFits c before cs else true) &&
      joinersFit (c :: before) cs

end CommandGateway.Net
