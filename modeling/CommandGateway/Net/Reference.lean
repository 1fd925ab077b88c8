import CommandGateway.Net.Url

/- References and what they refer to: a client that has got a reference from a page resolves it
   against the URL of the page, by the rules for URIs of any scheme. -/
namespace CommandGateway.Net

/-- The components of a reference as they are written. A URL is one that has a scheme. -/
structure Reference where
  scheme : Option String
  authority : Option String
  path : String
  query : Option String
  fragment : Option String
  deriving DecidableEq

def endsName (c : Char) : Bool := c = '/' || c = '?' || c = '#'

def cutScheme (cs : List Char) : Option (List Char) × List Char :=
  let name := cs.takeWhile fun c => !(c = ':' || endsName c)
  match name, cs.drop name.length with
  | [], _ => (none, cs)
  | name, ':' :: rest => (some name, rest)
  | _, _ => (none, cs)

def cutAuthority : List Char → Option (List Char) × List Char
  | '/' :: '/' :: rest =>
    (some (rest.takeWhile (!endsName ·)), rest.dropWhile (!endsName ·))
  | cs => (none, cs)

def Reference.ofText (s : String) : Reference :=
  let (scheme, rest) := cutScheme s.toList
  let (authority, rest) := cutAuthority rest
  let beforeFragment := rest.takeWhile (· ≠ '#')
  { scheme := scheme.map String.ofList
    authority := authority.map String.ofList
    path := String.ofList (beforeFragment.takeWhile (· ≠ '?'))
    query := (after? '?' beforeFragment).map String.ofList
    fragment := (after? '#' rest).map String.ofList }

def isDots (segment : List Char) : Bool := segment = ['.'] || segment = ['.', '.']

/-- Takes dot segments out of the segments behind slashes; `done` are the parts of the path so far,
    latest first, each with its slash. -/
def removeDots (done : List (List Char)) : List (List Char) → List (List Char)
  | [] => done
  | [last] =>
    if last = ['.', '.'] then ['/'] :: done.tail
    else if last = ['.'] then ['/'] :: done
    else ('/' :: last) :: done
  | segment :: next :: rest =>
    if segment = ['.', '.'] then removeDots done.tail (next :: rest)
    else if segment = ['.'] then removeDots done (next :: rest)
    else removeDots (('/' :: segment) :: done) (next :: rest)

/-- Dot segments before any slash lead nowhere; what stands there otherwise has no slash. -/
def dotless : List (List Char) → List Char
  | [] => []
  | first :: segments =>
    if isDots first then dotless segments else (removeDots [first] segments).reverse.flatten

def withoutDots (path : String) : String :=
  String.ofList (dotless (Text.pieces (· = '/') path.toList))

def Reference.joined (base : Reference) (path : String) : String :=
  if path.toList.head? = some '/' then path
  else if base.authority.isSome ∧ base.path = "" then "/" ++ path
  else String.ofList (base.path.toList.reverse.dropWhile (· ≠ '/')).reverse ++ path

/-- What a reference on a page refers to. -/
def Reference.resolve (base r : Reference) : Reference :=
  if r.scheme.isSome then { r with path := withoutDots r.path }
  else if r.authority.isSome then { r with scheme := base.scheme, path := withoutDots r.path }
  else if r.path = "" then
    { base with query := r.query.orElse fun _ => base.query, fragment := r.fragment }
  else
    { base with
      path := withoutDots (base.joined r.path)
      query := r.query
      fragment := r.fragment }

end CommandGateway.Net
