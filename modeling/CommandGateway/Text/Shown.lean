import CommandGateway.Text.PrintTable
import CommandGateway.Text.Ranges

/- A text as messages show it: in double quotes, on one line, and with every character that
   could not be seen there written by its code point. -/
namespace CommandGateway.Text

def codePoint (c : Char) : List Char :=
  ['\\', 'u', '\x7b'] ++ Nat.toDigits 16 c.toNat ++ ['\x7d']

def showChar (c : Char) : List Char :=
  if c = '\x00' then ['\\', '0']
  else if c = '\t' then ['\\', 't']
  else if c = '\r' then ['\\', 'r']
  else if c = '\n' then ['\\', 'n']
  else if c = '"' then ['\\', '"']
  else if c = '\\' then ['\\', '\\']
  else if 0x20 ≤ c.toNat ∧ c.toNat < 0x7f then [c]
  else if inRanges combining c || inRanges invisible c then codePoint c
  else [c]

def shown (s : String) : String := "\"" ++ String.ofList (s.toList.flatMap showChar) ++ "\""

/-- The same with single quotes escaped as well. -/
def shownStrictly (s : String) : String :=
  let written (c : Char) : List Char := if c = '\'' then ['\\', '\''] else showChar c
  "\"" ++ String.ofList (s.toList.flatMap written) ++ "\""

end CommandGateway.Text
