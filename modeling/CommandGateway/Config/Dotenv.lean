import CommandGateway.Actuator
import CommandGateway.Config.Environment
import CommandGateway.Text.Blank
import CommandGateway.Text.Shown
import CommandGateway.Text.Word

/- Files of variables, one `NAME=value` to a line. Values may be quoted, quotes may span lines, and
   a value may contain earlier ones. Reading breaks off at the first line that is malformed. -/
namespace CommandGateway.Dotenv

/-- How the characters so far leave the rest of a line. -/
inductive Quoting where
  | closed
  | blank
  | escape
  | single
  | singleEscape
  | double
  | doubleEscape
  deriving DecidableEq

def openedBy (c : Char) : Quoting :=
  if c = '\\' then .escape
  else if c = '"' then .double
  else if c = '\'' then .single
  else .closed

/-- Quoting behind one more character; a hash behind a blank starts a comment instead. -/
def Quoting.next (q : Quoting) (c : Char) : Option Quoting :=
  match q with
  | .blank => if c = '#' then none else some (openedBy c)
  | .closed =>
    if Text.isBlank c ∧ c ≠ '\n' ∧ c ≠ '\r' then some .blank else some (openedBy c)
  | .escape => some .closed
  | .single =>
    some (if c = '\\' then .singleEscape else if c = '\'' then .closed else .single)
  | .singleEscape => some .single
  | .double => some (if c = '\\' then .doubleEscape else if c = '"' then .closed else .double)
  | .doubleEscape => some .double

/-- The characters before a comment, and the quoting at the end unless a comment is there. -/
def follow (q : Quoting) : List Char → List Char × Option Quoting
  | [] => ([], some q)
  | c :: cs =>
    match q.next c with
    | none => ([], none)
    | some q =>
      let (kept, last) := follow q cs
      (c :: kept, last)

def physicalLines : Bytes → List Bytes
  | [] => []
  | b :: bs =>
    if b = 10 then [b] :: physicalLines bs
    else
      match physicalLines bs with
      | [] => [[b]]
      | line :: lines => (b :: line) :: lines

def withoutLineEnd (cs : List Char) : List Char :=
  match cs.reverse with
  | '\n' :: '\r' :: rest => rest.reverse
  | '\n' :: rest => rest.reverse
  | _ => cs

def startsComment (cs : List Char) : Bool := (Text.trimStart cs).head? = some '#'

/-- Puts lines together that a quote spans. `none` stands where reading breaks off: at a line that
    is no text, or at the end if something is still open there. -/
def entryLines (q : Quoting) (held : List Char) : List Bytes → List (Option (List Char))
  | [] => if q = .closed then [] else [none]
  | line :: rest =>
    match Text.ofUtf8? line with
    | none => [none]
    | some text =>
      if startsComment (held ++ text.toList) then entryLines .closed [] rest
      else
        match follow q text.toList with
        | (kept, none) => some (held ++ kept) :: entryLines .closed [] rest
        | (kept, some .closed) =>
          some (withoutLineEnd (held ++ kept)) :: entryLines .closed [] rest
        | (kept, some q) => entryLines q (held ++ kept) rest

/-- Where reading stands inside a value. `quoted` is true inside double quotes. -/
inductive Place where
  | plain (quoted : Bool)
  | escape (quoted : Bool)
  | single
  /-- A name to be replaced by its value, latest character first. -/
  | name (quoted braced : Bool) (letters : List Char)
  | ending
  | comment

def escaped? (c : Char) : Option Char :=
  if ['\\', '\'', '"', '$', ' '].contains c then some c
  else if c = 'n' then some '\n'
  else none

def spell (valueOf : String → String) (letters : List Char) : List Char :=
  (valueOf (String.ofList letters.reverse)).toList

def Place.next (valueOf : String → String) (place : Place) (c : Char) :
    Option (Place × List Char) :=
  match place with
  | .comment => some (.comment, [])
  | .ending =>
    if c = ' ' ∨ c = '\t' then some (.ending, [])
    else if c = '#' then some (.comment, [])
    else none
  | .escape quoted => (escaped? c).map fun c => (.plain quoted, [c])
  | .single => if c = '\'' then some (.plain false, []) else some (.single, [c])
  | .name quoted braced letters =>
    if Text.isAlphanumeric c then some (.name quoted braced (c :: letters), [])
    else if braced then
      if c = '\x7d' then some (.plain quoted, spell valueOf letters)
      else some (.name quoted true (c :: letters), [])
    else if c = '\x7b' ∧ letters = [] then some (.name quoted true [], [])
    else if c = '$' then some (.name quoted false [], spell valueOf letters)
    else some (.plain quoted, spell valueOf letters ++ [c])
  | .plain quoted =>
    if c = '$' then some (.name quoted false [], [])
    else if c = '\\' then some (.escape quoted, [])
    else if c = '"' then some (.plain (!quoted), [])
    else if quoted then some (.plain true, [c])
    else if c = '\'' then some (.single, [])
    else if c = ' ' ∨ c = '\t' then some (.ending, [])
    else some (.plain false, [c])

def Place.finish (valueOf : String → String) : Place → Option (List Char)
  | .plain quoted => if quoted then none else some []
  | .escape quoted => if quoted then none else some []
  | .single => none
  | .name quoted braced letters => if quoted || braced then none else some (spell valueOf letters)
  | .ending => some []
  | .comment => some []

def readValue (valueOf : String → String) (place : Place) : List Char → Option (List Char)
  | [] => place.finish valueOf
  | c :: cs =>
    match place.next valueOf c with
    | none => none
    | some (place, added) => (readValue valueOf place cs).map (added ++ ·)

def isNameStart (c : Char) : Bool := c.isAlpha || c = '_'

def isNameChar (c : Char) : Bool := c.isAlphanum || c = '_' || c = '.'

def readName (cs : List Char) : Option (String × List Char) :=
  match cs with
  | c :: _ =>
    if isNameStart c then
      some (String.ofList (cs.takeWhile isNameChar), Text.trimStart (cs.dropWhile isNameChar))
    else none
  | [] => none

def readEquals : List Char → Option (List Char)
  | '=' :: rest => some (Text.trimStart rest)
  | _ => none

/-- The name of an entry and what follows its equals sign. The word `export` may stand in front of
    a name, and may also be one. -/
def readAssignment (cs : List Char) : Option (String × List Char) :=
  match readName cs with
  | none => none
  | some (name, rest) =>
    match readEquals rest with
    | some rest => some (name, rest)
    | none =>
      if name = "export" then
        match readName rest with
        | none => none
        | some (name, rest) => (readEquals rest).map (name, ·)
      else none

def isVoid (cs : List Char) : Bool := cs.isEmpty || cs.head? = some '#'

inductive Line where
  | nothing
  | entry (name value : String)
  | malformed

def readLine (valueOf : String → String) (line : List Char) : Line :=
  let cs := Text.trimStart (Text.trimEnd line)
  if isVoid cs then .nothing
  else
    match readAssignment cs with
    | none => .malformed
    | some (name, rest) =>
      if isVoid rest then .entry name ""
      else
        match readValue valueOf (.plain false) rest with
        | none => .malformed
        | some value => .entry name (String.ofList value)

def valueIn (entries : List (String × String)) (name : String) : Option String :=
  (entries.find? (·.1 = name)).map (·.2)

/-- A name inside a value stands for a variable that is set, or else for the latest entry so far. -/
def meaning (env : Environment) (entries : List (String × String)) (name : String) : String :=
  ((env.get? name).orElse fun _ => valueIn entries name).getD ""

/-- The entries before the first malformed line; `before` are those so far, latest first. -/
def entriesFrom (env : Environment) (before : List (String × String)) :
    List (Option (List Char)) → List (String × String)
  | [] => []
  | none :: _ => []
  | some line :: rest =>
    match readLine (meaning env before) line with
    | .nothing => entriesFrom env before rest
    | .malformed => []
    | .entry name value =>
      (name, value) :: entriesFrom (env.extend (name, value)) ((name, value) :: before) rest

/-- The lines of a file; a byte order mark in front does not count. -/
def fileLines (file : Bytes) : List (Option (List Char)) :=
  let body := if Text.byteOrderMark.isPrefixOf file then file.drop 3 else file
  entryLines .closed [] (physicalLines body)

def entries (env : Environment) (file : Bytes) : List (String × String) :=
  entriesFrom env [] (fileLines file)

/-- Variables that are set stay, and of several entries for one name the first counts. -/
def load (env : Environment) (file : Bytes) : Environment :=
  (entries env file).foldl Environment.extend env

def unsettableText (name value : String) : String :=
  "failed to set environment variable `" ++ Text.shownStrictly name ++ "` to `" ++
    Text.shownStrictly value ++ "`: file name contained an unexpected NUL byte"

/-- Sets what is not set yet, unless the value has a zero in it, which no variable can hold. -/
def adopt (env : Environment) (entry : String × String) : Ended Environment :=
  match env.get? entry.1 with
  | some _ => .returned env
  | none =>
    if entry.2.toList.contains '\x00' then .panicked (.text (unsettableText entry.1 entry.2))
    else .returned (env.set entry.1 entry.2)

def adoptAll (env : Environment) : List (String × String) → Ended Environment
  | [] => .returned env
  | entry :: rest =>
    match adopt env entry with
    | .returned env => adoptAll env rest
    | .panicked p => .panicked p

def apply (env : Environment) (file : Bytes) : Ended Environment := adoptAll env (entries env file)

end CommandGateway.Dotenv
