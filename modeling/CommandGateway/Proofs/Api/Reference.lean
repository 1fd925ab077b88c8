import CommandGateway.Proofs.Api.Location
import CommandGateway.Proofs.Net.Reference

/- Where the references that the gateway hands out lead a client. Each of them is a path that is
   mounted, and a client gets to that path of the gateway just when the path of the commands is
   straight: the rules for the configuration look at its characters and its ends only. -/
namespace CommandGateway.Api

open Net Pool Engine

variable {σ H : Type}

section Straight
variable {path : String} {id : Uuid}

theorem pieces_append {first : List Char} (rest : List Char) :
    Text.pieces (· = '/') (first ++ '/' :: rest) =
      Text.pieces (· = '/') first ++ Text.pieces (· = '/') rest := by
  induction first with
  | nil => rw [List.nil_append, pieces_separator rfl]; rfl
  | cons c first ih =>
    obtain ⟨piece, others, cut⟩ := List.exists_cons_of_ne_nil (pieces_ne_nil (p := (· = '/')) first)
    simp only [List.cons_append, Text.pieces, ih, cut]
    split <;> rfl

theorem location_chars : (locationOf path id).toList = path.toList ++ '/' :: id.text.toList := by
  simp [locationOf]

theorem location_straight (rooted : Rooted path) (straight : Straight path) (id : Uuid) :
    Straight (locationOf path id) := by
  obtain ⟨d, ds, spelt⟩ := rooted
  obtain ⟨oneSlash, noDots⟩ := straight
  obtain ⟨long, plain⟩ := Uuid.spelling_plain (Uuid.Spelling.canonical (u := id))
  constructor
  · intro rest slashes
    rw [location_chars, spelt] at slashes
    obtain rfl : d = '/' := (List.cons.inj (List.cons.inj slashes).2).1
    exact oneSlash ds spelt
  · rw [location_chars, pieces_append]
    have alone : Text.pieces (· = '/') id.text.toList = [id.text.toList] := by
      have noSlash : ∀ c ∈ id.text.toList, decide (c = '/') = false := by
        intro c member
        refine decide_eq_false ?_
        rintro rfl
        exact absurd (plain '/' member) (by decide)
      simpa using pieces_piece noSlash (rfl : Text.pieces (· = '/') [] = [] :: [])
    rw [alone]
    refine List.forall_mem_append.mpr ⟨noDots, List.forall_mem_singleton.mpr ?_⟩
    cases dots : isDots id.text.toList with
    | false => rfl
    | true =>
      simp only [isDots, Bool.or_eq_true, decide_eq_true_eq] at dots
      rcases dots with same | same <;> simp [same] at long

theorem admitted_unmarked (admitted : Admitted path) : ∀ c ∈ path.toList, c ≠ '?' ∧ c ≠ '#' := by
  intro c member
  have own := admitted c member
  constructor <;> rintro rfl <;> cases own

theorem location_unmarked (admitted : Admitted path) (id : Uuid) :
    ∀ c ∈ (locationOf path id).toList, c ≠ '?' ∧ c ≠ '#' := by
  rw [location_chars, List.forall_mem_append, List.forall_mem_cons]
  refine ⟨admitted_unmarked admitted, by decide, fun c member => ?_⟩
  have plain := (Uuid.spelling_plain (Uuid.Spelling.canonical (u := id))).2
  exact (unreserved_inert (plain c member)).noEnd

end Straight

/-- What a client gets to that resolves against a URL of the gateway what the gateway has handed
    out: the target of the form on the landing page and the Locations of jobs. -/
structure AtHome (c : Config) (base : Reference) : Prop where
  target : base.resolve (.ofText c.commandsPath) = base.at c.commandsPath
  location : ∀ id, base.resolve (.ofText (locationOf c.commandsPath id)) =
    base.at (locationOf c.commandsPath id)

/-- The references that the gateway hands out, and what is mounted at each of them. -/
structure HandsOut (c : Config) : Prop where
  page : ∃ before after, landingPage c.commandsPath =
    before ++ "      const response = await fetch('" ++ c.commandsPath ++ "', \x7b\n" ++ after
  unquoted : '\'' ∉ c.commandsPath.toList
  submit : taken? c.commandsPath c.commandsPath (some .post) =
    some (submitMount c.commandsPath, "")
  answers : ∀ {σ H : Type} (g g' : Gateway σ H) id r answer, g.config = c →
    g.handle id r = .answered answer g' → answer.status = 202 →
    locations answer = [locationOf c.commandsPath id]
  status : ∀ id : Uuid, taken? c.commandsPath (locationOf c.commandsPath id) (some .get) =
    some (statusMount c.commandsPath, id.text) ∧ Uuid.parse id.text = .ok id

section Loaded
variable {env : Environment} {file : Option Bytes} {c : Config}

theorem join_split (n : Nat) (l : List String) :
    String.join l = String.join (l.take n) ++ String.join (l.drop n) := by
  conv_lhs => rw [← List.take_append_drop n l]
  exact String.join_append

theorem page_fetches (path : String) : ∃ before after, landingPage path =
    before ++ "      const response = await fetch('" ++ path ++ "', \x7b\n" ++ after := by
  rw [landingPage, join_split 24]
  simp only [List.take, List.drop, String.join, List.foldl]
  exact ⟨_, _, rfl⟩

theorem hands_out (loaded : Config.load env file = .ok c) : HandsOut c where
  page := page_fetches c.commandsPath
  unquoted := fun quote => absurd ((loaded_path loaded).2 _ quote) (by decide)
  submit := posted_route c.commandsPath
  answers := by
    rintro σ H g g' id r answer rfl handled accepted
    exact locations_accepted handled accepted
  status := fun id => place_routed Uuid.Spelling.canonical

/-- The references of a gateway stay on it just when the path of its commands is straight. -/
theorem references_stay_home (loaded : Config.load env file = .ok c) :
    HandsOut c ∧ ∀ base, AtHome c base ↔ Straight c.commandsPath := by
  obtain ⟨rooted, admitted⟩ := loaded_path loaded
  obtain ⟨d, ds, spelt⟩ := rooted
  refine ⟨hands_out loaded, fun base => ?_⟩
  have target := refers_to_itself_iff base spelt (admitted_unmarked admitted)
  constructor
  · exact fun home => target.mp home.target
  · intro straight
    refine ⟨target.mpr straight, fun id => ?_⟩
    have below : (locationOf c.commandsPath id).toList =
        '/' :: (d :: ds ++ '/' :: id.text.toList) := by
      rw [location_chars, spelt]
      rfl
    exact (refers_to_itself_iff base below (location_unmarked admitted id)).mpr
      (location_straight ⟨d, ds, spelt⟩ straight id)

end Loaded

def takingAt (path : String) : Config := { Config.default with commandsPath := path }

def pathEnvironment (path : String) : Environment := Environment.set ⟨[]⟩ "COMMANDS_PATH" path

def home : Reference := .ofText "http://127.0.0.1:5000/"

theorem odd_path_stays_home :
    Config.load (pathEnvironment "/v1//relay..d") none = .ok (takingAt "/v1//relay..d") ∧
    HandsOut (takingAt "/v1//relay..d") ∧ AtHome (takingAt "/v1//relay..d") home := by
  have loaded : Config.load (pathEnvironment "/v1//relay..d") none =
      .ok (takingAt "/v1//relay..d") := rfl
  have straight : Straight "/v1//relay..d" := by
    refine ⟨fun rest slashes => ?_, by decide⟩
    exact absurd (List.cons.inj (List.cons.inj slashes).2).1 (by decide)
  obtain ⟨handsOut, stays⟩ := references_stay_home loaded
  exact ⟨loaded, handsOut, (stays home).mpr straight⟩

/-- Paths that the configuration takes, of which the one is another path for a client, without a
    status there, and the other one another host. -/
theorem crooked_paths_lead_away :
    let id := Uuid.ofNat 1
    Config.load (pathEnvironment "/a/../b") none = .ok (takingAt "/a/../b") ∧
    home.resolve (.ofText (locationOf "/a/../b" id)) = home.at ("/b/" ++ id.text) ∧
    taken? "/a/../b" ("/b/" ++ id.text) (some .get) = none ∧
    Config.load (pathEnvironment "//elsewhere/x") none = .ok (takingAt "//elsewhere/x") ∧
    (home.resolve (.ofText (locationOf "//elsewhere/x" id))).authority = some "elsewhere" ∧
    (home.resolve (.ofText "//elsewhere/x")).authority = some "elsewhere" := by
  exact ⟨rfl, by decide +kernel, by decide +kernel, rfl, by decide +kernel, by decide +kernel⟩

end CommandGateway.Api
