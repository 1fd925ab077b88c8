import CommandGateway.Text.CaseTable

/- Full Unicode lower case, independent of language. A capital sigma at the end of a word takes
   its final form, and a capital I with a dot becomes two characters. -/
namespace CommandGateway.Text

def lowerChar (c : Char) : Char :=
  if c.toNat < 0x80 then c.toLower
  else (shifted? caseRuns c).getD c

def meetsCased (cs : List Char) : Bool :=
  match cs.dropWhile (inRanges caseIgnorable) with
  | c :: _ => inRanges cased c
  | [] => false

/-- `before` holds the characters already passed, latest first. -/
def lowerFrom (before : List Char) : List Char → List Char
  | [] => []
  | c :: cs =>
    let lowered :=
      if c = '\u03a3' then [if meetsCased before && !meetsCased cs then '\u03c2' else '\u03c3']
      else if c = '\u0130' then ['i', '\u0307']
      else [lowerChar c]
    lowered ++ lowerFrom (c :: before) cs

def lowercase (s : String) : String := String.ofList (lowerFrom [] s.toList)

end CommandGateway.Text
