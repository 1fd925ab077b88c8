import CommandGateway.Proofs.Api.Reference
import CommandGateway.Proofs.Json.Members

/- The description against the routes. Moving the operations on commands to another path keeps the
   description in step with what is mounted there, unless it brings one of them to a path that has
   an operation already: routes of several verbs share a path, and the description of a path has
   one operation. -/
namespace CommandGateway.Api

open Json

/-- What is described of an endpoint. The description says nothing of itself and of the pages that
    show it. -/
def Endpoint.operation? : Endpoint → Option Operation
  | .landing => some landingOperation
  | .health => some healthOperation
  | .submit => some submitOperation
  | .status => some statusOperation
  | .description | .pages => none

/-- An operation is mounted at a path, for the requests that it is described for. -/
def Offers (commandsPath path : String) (op : Operation) : Prop :=
  ∃ m ∈ mounts commandsPath,
    m.endpoint.operation? = some op ∧ m.pattern.template = path ∧ m.verb = op.verb

/-- The description tells what is served, and differs from that of the default path in nothing but
    the paths of the operations on commands. -/
structure Described (commandsPath : String) : Prop where
  exact : ∀ path op, (path, op) ∈ (describe commandsPath).operations ↔ Offers commandsPath path op
  once : Ascending (describe commandsPath).operations
  content : ∀ path op, (path, op) ∈ (describe commandsPath).operations ↔
    ∃ old, (old, op) ∈ (describe defaultCommandsPath).operations ∧ path = relocate commandsPath old
  below : ∀ path op, (path, op) ∈ (describe commandsPath).operations →
    defaultCommandsPath.toList <+: path.toList →
    path = commandsPath ∨ path = statusPath commandsPath
  moved : commandsPath ≠ defaultCommandsPath → ∀ op,
    (defaultCommandsPath, op) ∉ (describe commandsPath).operations ∧
    (statusPath defaultCommandsPath, op) ∉ (describe commandsPath).operations
  rest : { describe commandsPath with operations := (describe defaultCommandsPath).operations } =
    describe defaultCommandsPath

def placedOperations (commandsPath : String) : List (String × Operation) :=
  [("/", landingOperation), (commandsPath, submitOperation),
    (statusPath commandsPath, statusOperation), ("/health", healthOperation)]

section Paths
variable {commandsPath path : String} {op : Operation}

theorem relocate_default : relocate commandsPath defaultCommandsPath = commandsPath := by
  have rest : behind? defaultCommandsPath.toList defaultCommandsPath.toList = some [] := by decide
  simp [relocate, rest]

theorem relocate_status :
    relocate commandsPath (statusPath defaultCommandsPath) = statusPath commandsPath := by
  have rest : behind? defaultCommandsPath.toList (statusPath defaultCommandsPath).toList =
      some "/\x7bid\x7d".toList := by decide
  rw [relocate, rest]
  simp only [String.ofList_toList, statusPath]

theorem operations_placed :
    operations.map (fun entry => (relocate commandsPath entry.1, entry.2)) =
      placedOperations commandsPath := by
  have landing : relocate commandsPath "/" = "/" := by
    have other : behind? defaultCommandsPath.toList "/".toList = none := by decide
    simp only [relocate, other]
  have health : relocate commandsPath "/health" = "/health" := by
    have other : behind? defaultCommandsPath.toList "/health".toList = none := by decide
    simp only [relocate, other]
  simp only [operations, List.map_cons, List.map_nil, landing, relocate_default, relocate_status,
    health, placedOperations]

theorem describe_operations :
    (describe commandsPath).operations = sortMembers (placedOperations commandsPath) := by
  rw [← operations_placed]
  simp only [describe]
  split
  · rename_i same
    have ordered : Ascending operations := by
      unfold Ascending
      decide
    rw [same, operations_placed]
    exact (sort_of_ascending ordered).symm
  · rfl

theorem status_template :
    (Pattern.segment (commandsPath ++ "/")).template = statusPath commandsPath := by
  simp [Pattern.template, statusPath, String.append_assoc]

theorem offers_iff : Offers commandsPath path op ↔ (path, op) ∈ placedOperations commandsPath := by
  constructor
  · rintro ⟨m, mounted, described, rfl, -⟩
    simp only [mounts, fixedMounts, commandMounts, List.cons_append, List.nil_append,
      List.mem_cons, List.not_mem_nil, or_false] at mounted
    rcases mounted with rfl | rfl | rfl | rfl | rfl | rfl | rfl | rfl <;> cases described
    all_goals simp only [placedOperations, status_template]
    all_goals simp [Pattern.template]
  · intro listed
    simp only [placedOperations, List.mem_cons, List.not_mem_nil, or_false, Prod.mk.injEq] at listed
    rcases listed with ⟨rfl, rfl⟩ | ⟨rfl, rfl⟩ | ⟨rfl, rfl⟩ | ⟨rfl, rfl⟩
    · exact ⟨⟨.exact "/", .get, .landing⟩, by simp [mounts, fixedMounts], rfl, rfl, rfl⟩
    · exact ⟨⟨.exact path, .post, .submit⟩, by simp [mounts, commandMounts], rfl, rfl, rfl⟩
    · exact ⟨statusMount commandsPath, by simp [mounts, commandMounts, statusMount], rfl,
        status_template, rfl⟩
    · exact ⟨⟨.exact "/health", .get, .health⟩, by simp [mounts, fixedMounts], rfl, rfl, rfl⟩

theorem status_path_brace : '\x7d' ∈ (statusPath commandsPath).toList := by
  simp [statusPath]

theorem admitted_no_template (admitted : Admitted path) : path ≠ statusPath commandsPath := by
  rintro rfl
  exact absurd (admitted _ status_path_brace) (by decide)

theorem status_path_injective (same : statusPath path = statusPath commandsPath) :
    path = commandsPath := by
  have chars := congrArg String.toList same
  exact String.toList_inj.mp (by simpa [statusPath] using chars)

/-- An accepted path other than that of the health report leaves each operation its own path. -/
theorem placed_apart (rooted : Rooted commandsPath) (admitted : Admitted commandsPath)
    (elsewhere : commandsPath ≠ "/health") :
    (placedOperations commandsPath).Pairwise fun m n => m.1 ≠ n.1 := by
  have landing : "/" ≠ commandsPath := by
    obtain ⟨d, ds, spelt⟩ := rooted
    rintro rfl
    simp at spelt
  have fixed : Admitted "/" ∧ Admitted "/health" := by
    constructor <;> exact List.all_eq_true.mp (by decide)
  simp [placedOperations, landing, elsewhere, admitted_no_template admitted,
    admitted_no_template fixed.1, (admitted_no_template fixed.2).symm]

theorem operations_exact (rooted : Rooted commandsPath) (admitted : Admitted commandsPath)
    (elsewhere : commandsPath ≠ "/health") :
    (path, op) ∈ (describe commandsPath).operations ↔ Offers commandsPath path op := by
  rw [describe_operations, mem_sort_iff_mem (placed_apart rooted admitted elsewhere), offers_iff]

theorem submission_hidden : ("/health", submitOperation) ∉ (describe "/health").operations := by
  intro described
  rw [describe_operations, mem_sort_iff_lookup] at described
  have same : healthOperation = submitOperation := Option.some.inj described
  exact absurd (congrArg Operation.verb same) (by decide)

theorem content_iff : (path, op) ∈ placedOperations commandsPath ↔
    ∃ old, (old, op) ∈ (describe defaultCommandsPath).operations ∧
      path = relocate commandsPath old := by
  rw [← operations_placed, List.mem_map]
  constructor
  · rintro ⟨⟨old, kept⟩, listed, same⟩
    obtain ⟨rfl, rfl⟩ := Prod.mk.inj same
    exact ⟨old, listed, rfl⟩
  · rintro ⟨old, listed, rfl⟩
    exact ⟨(old, op), listed, rfl⟩

theorem below_default (listed : (path, op) ∈ placedOperations commandsPath)
    (below : defaultCommandsPath.toList <+: path.toList) :
    path = commandsPath ∨ path = statusPath commandsPath := by
  simp only [placedOperations, List.mem_cons, List.not_mem_nil, or_false, Prod.mk.injEq] at listed
  rcases listed with ⟨rfl, -⟩ | ⟨rfl, -⟩ | ⟨rfl, -⟩ | ⟨rfl, -⟩
  · exact absurd below (by decide)
  · exact .inl rfl
  · exact .inr rfl
  · exact absurd below (by decide)

theorem moved_away (admitted : Admitted commandsPath)
    (away : commandsPath ≠ defaultCommandsPath) :
    (defaultCommandsPath, op) ∉ placedOperations commandsPath ∧
      (statusPath defaultCommandsPath, op) ∉ placedOperations commandsPath := by
  constructor
  · intro listed
    rcases below_default listed List.prefix_rfl with same | same
    · exact away same.symm
    · exact admitted_no_template default_admitted.2 same
  · intro listed
    have below : defaultCommandsPath.toList <+: (statusPath defaultCommandsPath).toList := by decide
    rcases below_default listed below with same | same
    · exact admitted_no_template admitted same.symm
    · exact away (status_path_injective same).symm

end Paths

/-- Of all paths that the configuration accepts, only that of the health report is described
    wrongly: the submission of commands there is mounted beside the report but not described. -/
theorem description_follows_routes {env : Environment} {file : Option Bytes} {c : Config}
    (loaded : Config.load env file = .ok c) :
    Described c.commandsPath ↔ c.commandsPath ≠ "/health" := by
  obtain ⟨rooted, admitted⟩ := loaded_path loaded
  constructor
  · intro described shared
    have mounted : Offers "/health" "/health" submitOperation :=
      offers_iff.mpr (by simp [placedOperations])
    rw [shared] at described
    exact submission_hidden ((described.exact _ _).mpr mounted)
  · intro elsewhere
    have listed : ∀ path op, (path, op) ∈ (describe c.commandsPath).operations ↔
        (path, op) ∈ placedOperations c.commandsPath := by
      intro path op
      rw [operations_exact rooted admitted elsewhere, offers_iff]
    constructor
    case exact => exact fun path op => operations_exact rooted admitted elsewhere
    case once => exact describe_operations ▸ sort_ascending _
    case content => exact fun path op => (listed path op).trans content_iff
    case below => exact fun path op described => below_default ((listed path op).mp described)
    case moved =>
      intro away op
      rw [listed, listed]
      exact moved_away admitted away
    case rest => rfl

theorem blocks_described : Config.load (pathEnvironment "/api/blocks") none =
    .ok (takingAt "/api/blocks") ∧ Described "/api/blocks" := by
  have loaded : Config.load (pathEnvironment "/api/blocks") none =
      .ok (takingAt "/api/blocks") := rfl
  exact ⟨loaded, (description_follows_routes loaded).mpr (by decide)⟩

theorem submission_undescribed : Config.load (pathEnvironment "/health") none =
    .ok (takingAt "/health") ∧ isMountable "/health" = true ∧
    Offers "/health" "/health" submitOperation ∧
    ("/health", submitOperation) ∉ (describe "/health").operations :=
  ⟨rfl, mountable (by decide), offers_iff.mpr (by simp [placedOperations]), submission_hidden⟩

end CommandGateway.Api
