import CommandGateway.Net.Domain
import CommandGateway.Net.Percent
import CommandGateway.Text.Lowercase

/- Absolute `http` URLs, read as browsers read them. Blanks and controls at the ends and line ends
   and tabs anywhere do not count, a backslash is a slash, and dot segments are resolved. A login in
   front of the host is no part of the address, unless it spells no text and so cannot be used. -/
namespace CommandGateway.Net

inductive Host where
  | domain (name : String)
  | v4 (address : V4)
  | v6 (address : V6)
  deriving DecidableEq

/-- `path` are the segments behind the slashes, at least one. A port that every `http` URL has
    anyway is left out. -/
structure Url where
  login : Option String
  host : Host
  port : Option Nat
  path : List String
  query : Option String
  fragment : Option String
  deriving DecidableEq

def Host.text : Host → String
  | .domain name => name
  | .v4 address => address.text
  | .v6 address => "[" ++ address.hexText ++ "]"

def Url.authority (u : Url) : String :=
  u.host.text ++ ((u.port.map fun p => ":" ++ toString p).getD "")

def Url.pathText (u : Url) : String := "/" ++ "/".intercalate u.path

def Url.text (u : Url) : String :=
  "http://" ++ ((u.login.map (· ++ "@")).getD "") ++ u.authority ++ u.pathText ++
    ((u.query.map ("?" ++ ·)).getD "") ++ ((u.fragment.map ("#" ++ ·)).getD "")

def fragmentSpecials : List Char := [' ', '"', '<', '>', '\x60']

def pathSpecials : List Char := fragmentSpecials ++ ['#', '?', '^', '\x7b', '\x7d']

def loginSpecials : List Char := pathSpecials ++ ['/', ':', ';', '=', '@', '[', '\\', ']', '|']

def querySpecials : List Char := [' ', '"', '#', '<', '>', '\'']

def isStripped (c : Char) : Bool := c.toNat ≤ 0x20

def isIgnored (c : Char) : Bool := c = '\t' || c = '\n' || c = '\r'

def counted (cs : List Char) : List Char :=
  (((cs.dropWhile isStripped).reverse.dropWhile isStripped).reverse).filter (!isIgnored ·)

def isSlash (c : Char) : Bool := c = '/' || c = '\\'

def endsAuthority (c : Char) : Bool := isSlash c || c = '?' || c = '#'

def withoutLogin (cs : List Char) : List Char := (cs.reverse.takeWhile (· ≠ '@')).reverse

def loginOf (cs : List Char) : List Char :=
  ((cs.reverse.dropWhile (· ≠ '@')).drop 1).reverse

def spellsText (cs : List Char) : Bool :=
  (Text.ofUtf8? (percentDecode (Text.utf8 (String.ofList cs)))).isSome

/-- A login that cannot be used: its name spells no text, or has a secret alone that does not. -/
def strayLogin? (cs : List Char) : Option String :=
  let name := cs.takeWhile (· ≠ ':')
  let secret := (cs.dropWhile (· ≠ ':')).drop 1
  let used := if name = [] then secret = [] || spellsText secret else spellsText name
  if used then none
  else
    let colon := if secret = [] then "" else ":"
    some (percentEncode loginSpecials name ++ colon ++ percentEncode loginSpecials secret)

def splitHost (inBrackets : Bool) : List Char → List Char × List Char
  | [] => ([], [])
  | c :: cs =>
    if c = ':' ∧ inBrackets = false then ([], c :: cs)
    else
      let inside := if c = '[' then true else if c = ']' then false else inBrackets
      let (host, rest) := splitHost inside cs
      (c :: host, rest)

/-- A number in an address of octets: hex behind `0x`, octal behind `0`, else decimal. -/
def addressNumber? (cs : List Char) : Option Nat :=
  let (radix, digits) :=
    match cs with
    | '0' :: 'x' :: rest => (16, rest)
    | '0' :: 'X' :: rest => (16, rest)
    | '0' :: c :: rest => (8, c :: rest)
    | cs => (10, cs)
  if cs = [] then none
  else if digits.all fun c => (digitOf? radix c).isSome then some (valueOf radix digits)
  else none

def labelsOf (name : List Char) : List (List Char) :=
  match (Text.pieces (· = '.') name).reverse with
  | [] :: label :: labels => (label :: labels).reverse
  | labels => labels.reverse

/-- A name whose last label is a number must be an address. -/
def isNumeric (name : List Char) : Bool :=
  match (labelsOf name).getLast? with
  | some label =>
    (label ≠ [] && label.all fun c => (digitOf? 10 c).isSome) || (addressNumber? label).isSome
  | none => false

/-- The numbers before the last are octets, and the last fills what is left. -/
def joinNumbers : List Nat → Nat → Option Nat
  | [], _ => none
  | [n], width => if n < Nat.pow 256 width then some n else none
  | _ :: _ :: _, 0 => none
  | n :: m :: rest, width + 1 =>
    if n < 256 then (joinNumbers (m :: rest) width).map (n * Nat.pow 256 width + ·) else none

def numericHost? (name : List Char) : Option V4 :=
  let labels := labelsOf name
  if 4 < labels.length then none
  else
    match labels.mapM addressNumber? with
    | none => none
    | some numbers => (joinNumbers numbers 4).bind V4.ofNat?

def forbiddenInHost : List Char :=
  [' ', '#', '/', ':', '<', '>', '?', '@', '[', '\\', ']', '^', '|', '%']

def isForbiddenInHost (c : Char) : Bool :=
  c.toNat < 0x20 || c.toNat = 0x7f || forbiddenInHost.contains c

def domainHost? (name : String) : Option Host :=
  match asciiName? name.toList with
  | none => none
  | some ascii =>
    if ascii = [] ∨ ascii.any isForbiddenInHost then none
    else if isNumeric ascii then (numericHost? ascii).map .v4
    else some (.domain (String.ofList ascii))

def Host.ofText? (cs : List Char) : Option Host :=
  match cs with
  | [] => none
  | '[' :: rest =>
    match readV6 rest with
    | some (address, [']']) => some (.v6 address)
    | _ => none
  | cs => (Text.ofUtf8? (percentDecode (Text.utf8 (String.ofList cs)))).bind domainHost?

/-- The port behind a colon. None of its own, or the usual one, is no port. -/
def portOf? : List Char → Option (Option Nat)
  | [] => some none
  | ':' :: digits =>
    if digits.all (fun c => (digitOf? 10 c).isSome) && valueOf 10 digits < 65536 then
      some (if digits = [] ∨ valueOf 10 digits = 80 then none else some (valueOf 10 digits))
    else none
  | _ => none

def isDot (segment : String) : Bool :=
  segment = "." || Text.lowercase segment = "%2e"

def isDotDot (segment : String) : Bool :=
  ["..", ".%2e", "%2e.", "%2e%2e"].contains (Text.lowercase segment)

def isDrive (segment : String) : Bool :=
  match segment.toList with
  | [letter, c] => letter.isAlpha && (c = ':' || c = '|')
  | _ => false

/-- The segments above, latest first. There is nothing above a drive. -/
def parent : List String → List String
  | [] => []
  | segment :: done => if isDrive segment then segment :: done else done

def resolveDots (done : List String) : List String → List String
  | [] => done.reverse
  | [last] =>
    if isDotDot last then ("" :: parent done).reverse
    else if isDot last then ("" :: done).reverse
    else (last :: done).reverse
  | segment :: next :: rest =>
    if isDotDot segment then resolveDots (parent done) (next :: rest)
    else if isDot segment then resolveDots done (next :: rest)
    else resolveDots (segment :: done) (next :: rest)

def pathOf (cs : List Char) : List String :=
  resolveDots [] ((Text.pieces isSlash cs).map (percentEncode pathSpecials))

def after? (c : Char) (cs : List Char) : Option (List Char) :=
  match cs.dropWhile (· ≠ c) with
  | [] => none
  | _ :: rest => some rest

def Url.ofAuthority? (cs : List Char) : Option Url :=
  let authority := cs.takeWhile (!endsAuthority ·)
  let (name, port) := splitHost false (withoutLogin authority)
  let rest := cs.dropWhile (!endsAuthority ·)
  let beforeFragment := rest.takeWhile (· ≠ '#')
  let path := beforeFragment.takeWhile (· ≠ '?')
  match Host.ofText? name, portOf? port with
  | some host, some port =>
    some {
      login := strayLogin? (loginOf authority)
      host := host
      port := port
      path := pathOf (path.drop 1)
      query := (after? '?' beforeFragment).map (percentEncode querySpecials)
      fragment := (after? '#' rest).map (percentEncode fragmentSpecials) }
  | _, _ => none

def scheme : List Char := "http:".toList

def Url.ofText? (s : String) : Option Url :=
  let cs := counted s.toList
  if (cs.take scheme.length).map Char.toLower = scheme then
    Url.ofAuthority? ((cs.drop scheme.length).dropWhile isSlash)
  else none

def maxRequested : Nat := 65534

/-- The rules for URLs let some characters into a host that no request can name. -/
def Url.isRequestable (u : Url) : Bool :=
  u.text.utf8ByteSize ≤ maxRequested &&
    match u.host with
    | .domain name => name.toList.all fun c => !(['"', '\x60', '\x7b', '\x7d'].contains c)
    | _ => true

end CommandGateway.Net
