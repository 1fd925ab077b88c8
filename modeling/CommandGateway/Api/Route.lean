import CommandGateway.Api.Description

/- Routes: which operation a path leads to. A path that is mounted as it stands goes before one
   with a variable segment, and that before one that takes all that is below. -/
namespace CommandGateway.Api

/-- `pages` is the documentation browser, which is external. -/
inductive Endpoint where
  | landing
  | health
  | submit
  | status
  | description
  | pages
  deriving DecidableEq, Repr

inductive Pattern where
  | exact (path : String)
  | segment (front : String)
  | below (front : String)
  deriving DecidableEq, Repr

def Pattern.template : Pattern → String
  | .exact path => path
  | .segment front => front ++ "\x7bid\x7d"
  | .below front => front ++ "\x7b*rest\x7d"

structure Mount where
  pattern : Pattern
  verb : Verb
  endpoint : Endpoint
  deriving DecidableEq, Repr

def descriptionPath : String := "/api-docs/openapi.json"

def pagesPath : String := "/swagger-ui"

def fixedMounts : List Mount :=
  [⟨.exact descriptionPath, .get, .description⟩, ⟨.exact pagesPath, .get, .pages⟩,
    ⟨.exact (pagesPath ++ "/"), .get, .pages⟩, ⟨.below (pagesPath ++ "/"), .get, .pages⟩,
    ⟨.exact "/", .get, .landing⟩, ⟨.exact "/health", .get, .health⟩]

def commandMounts (commandsPath : String) : List Mount :=
  [⟨.exact commandsPath, .post, .submit⟩, ⟨.segment (commandsPath ++ "/"), .get, .status⟩]

def mounts (commandsPath : String) : List Mount := fixedMounts ++ commandMounts commandsPath

def Pattern.rest? (p : Pattern) (path : String) : Option String :=
  match p with
  | .exact s => if s = path then some "" else none
  | .segment front =>
    match behind? front.toList path.toList with
    | some (c :: cs) => if '/' ∈ c :: cs then none else some (String.ofList (c :: cs))
    | _ => none
  | .below front =>
    match behind? front.toList path.toList with
    | some (c :: cs) => some (String.ofList (c :: cs))
    | _ => none

def Pattern.rank : Pattern → Nat
  | .exact _ => 0
  | .segment _ => 1
  | .below _ => 2

/-- The mounts of the best rank that fit a path, each with the variable part. -/
def fitting (path : String) (rank : Nat) (ms : List Mount) : List (Mount × String) :=
  ms.filterMap fun m =>
    if m.pattern.rank = rank then (m.pattern.rest? path).map (m, ·) else none

def route (commandsPath path : String) : List (Mount × String) :=
  let ms := mounts commandsPath
  let exact := fitting path 0 ms
  let segment := fitting path 1 ms
  if exact ≠ [] then exact
  else if segment ≠ [] then segment
  else fitting path 2 ms

/-- Two mounts cannot stand side by side if they answer the same requests, or if one takes a
    segment where the other takes all that is below. -/
def clashes (a b : Mount) : Bool :=
  (a.pattern = b.pattern && a.verb = b.verb) ||
    match a.pattern, b.pattern with
    | .segment front, .below other => front = other
    | .below front, .segment other => front = other
    | _, _ => false

def mountAll (table : List Mount) : List Mount → Except (Mount × Mount) (List Mount)
  | [] => .ok table
  | m :: ms =>
    match table.find? fun other => clashes other m with
    | some other => .error (m, other)
    | none => mountAll (table ++ [m]) ms

def isMountable (commandsPath : String) : Bool := (mountAll [] (mounts commandsPath)).isOk

end CommandGateway.Api
