import CommandGateway.Api.Gateway
import Mathlib.Data.List.Basic

/- Where a request goes. Only one route takes batches, and a request that does not take it is
   answered at once by a gateway that stays as it is. -/
namespace CommandGateway.Api

open Pool Engine

variable {σ H : Type}

def Handling.gateway : Handling σ H → Gateway σ H
  | .answered _ g => g
  | .waiting _ g => g

def Posts (c : Config) (r : Request) : Prop :=
  r.method = "POST" ∧ pathOfTarget r.target = c.commandsPath

section Routes
variable {commandsPath path segment : String} {m : Mount} {verb : Verb}

theorem fitting_iff {rank : Nat} {ms : List Mount} :
    (m, segment) ∈ fitting path rank ms ↔
      m ∈ ms ∧ m.pattern.rank = rank ∧ m.pattern.rest? path = some segment := by
  simp only [fitting, List.mem_filterMap]
  constructor
  · rintro ⟨other, member, fits⟩
    split at fits
    · rename_i ranked
      obtain ⟨rest, found, same⟩ := Option.map_eq_some_iff.mp fits
      cases same
      exact ⟨member, ranked, found⟩
    · cases fits
  · rintro ⟨member, ranked, found⟩
    exact ⟨m, member, by simp [ranked, found]⟩

theorem route_fits (routed : (m, segment) ∈ route commandsPath path) :
    m ∈ mounts commandsPath ∧ m.pattern.rest? path = some segment := by
  have fits : ∃ rank, (m, segment) ∈ fitting path rank (mounts commandsPath) := by
    simp only [route] at routed
    split at routed
    · exact ⟨_, routed⟩
    · split at routed <;> exact ⟨_, routed⟩
  obtain ⟨rank, fits⟩ := fits
  obtain ⟨member, -, found⟩ := fitting_iff.mp fits
  exact ⟨member, found⟩

theorem route_exact (member : m ∈ mounts commandsPath) (pattern : m.pattern = .exact path) :
    route commandsPath path = fitting path 0 (mounts commandsPath) ∧
      (m, "") ∈ route commandsPath path := by
  have fits : (m, "") ∈ fitting path 0 (mounts commandsPath) :=
    fitting_iff.mpr ⟨member, by rw [pattern]; rfl, by simp [pattern, Pattern.rest?]⟩
  have same : route commandsPath path = fitting path 0 (mounts commandsPath) :=
    if_pos (List.ne_nil_of_mem fits)
  exact ⟨same, same ▸ fits⟩

def submitMount (commandsPath : String) : Mount := ⟨.exact commandsPath, .post, .submit⟩

theorem mount_post (member : m ∈ mounts commandsPath) (posts : m.verb = .post) :
    m = submitMount commandsPath := by
  simp only [mounts, fixedMounts, commandMounts, List.cons_append, List.nil_append, List.mem_cons,
    List.not_mem_nil, or_false] at member
  rcases member with rfl | rfl | rfl | rfl | rfl | rfl | rfl | rfl <;>
    simp [submitMount] at posts ⊢

theorem mount_get (member : m ∈ mounts commandsPath) (gets : m.verb = .get) :
    m.endpoint ≠ .submit := by
  simp only [mounts, fixedMounts, commandMounts, List.cons_append, List.nil_append, List.mem_cons,
    List.not_mem_nil, or_false] at member
  rcases member with rfl | rfl | rfl | rfl | rfl | rfl | rfl | rfl <;> simp at gets ⊢

/-- The route that a verb takes among those of a path. -/
def taken? (commandsPath path : String) (verb : Option Verb) : Option (Mount × String) :=
  (route commandsPath path).find? fun m => some m.1.verb = verb

theorem taken_some {m : Mount × String} {verb : Option Verb}
    (taken : taken? commandsPath path verb = some m) :
    m ∈ route commandsPath path ∧ some m.1.verb = verb :=
  ⟨List.mem_of_find?_eq_some taken, by simpa using List.find?_some taken⟩

theorem posted_route (path : String) :
    taken? path path (some .post) = some (submitMount path, "") := by
  have member : submitMount path ∈ mounts path := by
    simp [mounts, commandMounts, submitMount]
  obtain ⟨-, here⟩ := route_exact member rfl
  cases taken : taken? path path (some .post) with
  | none =>
    have absent := List.find?_eq_none.mp taken _ here
    simp [submitMount] at absent
  | some m =>
    obtain ⟨mount, segment⟩ := m
    obtain ⟨routed, posts⟩ := taken_some taken
    obtain ⟨mounted, fits⟩ := route_fits routed
    obtain rfl := mount_post mounted (Option.some.inj posts)
    obtain rfl : "" = segment := by simpa [submitMount, Pattern.rest?] using fits
    rfl

theorem other_route {method : String} {m : Mount × String}
    (elsewhere : ¬ (method = "POST" ∧ path = commandsPath))
    (taken : taken? commandsPath path (verbOf? method) = some m) : m.1.endpoint ≠ .submit := by
  obtain ⟨mount, segment⟩ := m
  obtain ⟨routed, same⟩ := taken_some taken
  obtain ⟨mounted, fits⟩ := route_fits routed
  cases verb : mount.verb with
  | get => exact mount_get mounted verb
  | post =>
    obtain rfl := mount_post mounted verb
    have here : commandsPath = path := by
      simp only [submitMount, Pattern.rest?] at fits
      split at fits
      · assumption
      · cases fits
    have posts : method = "POST" := by
      simp only [verbOf?, verb] at same
      split at same
      · cases same
      · split at same
        · assumption
        · cases same
    exact absurd ⟨posts, here.symm⟩ elsewhere

end Routes

section Answers
variable {g : Gateway σ H} {fresh : Uuid} {r : Request}

theorem respond_elsewhere (g : Gateway σ H) (fresh : Uuid) {endpoint : Endpoint} (body : Bytes)
    (segment : String) (elsewhere : endpoint ≠ .submit) :
    ∃ answer, g.respond fresh body endpoint segment = .answered answer g ∧
      answer.status ≠ 202 := by
  cases endpoint with
  | submit => exact absurd rfl elsewhere
  | status =>
    refine ⟨_, rfl, ?_⟩
    simp only [Gateway.status]
    split
    · exact nofun
    · split
      · exact nofun
      · split <;> exact nofun
  | _ => exact ⟨_, rfl, nofun⟩

theorem handle_elsewhere (g : Gateway σ H) (fresh : Uuid) (elsewhere : ¬ Posts g.config r) :
    ∃ answer, g.handle fresh r = .answered answer g ∧ answer.status ≠ 202 := by
  simp only [Gateway.handle]
  split
  · exact ⟨_, rfl, nofun⟩
  · split
    · exact ⟨_, rfl, nofun⟩
    · split
      · exact ⟨_, rfl, nofun⟩
      · rename_i mount segment taken
        obtain ⟨answer, responds, other⟩ :=
          respond_elsewhere g fresh r.body segment (other_route elsewhere taken)
        rw [responds]
        split
        · exact ⟨_, rfl, other⟩
        · exact ⟨answer, rfl, other⟩

theorem handle_posted (posts : Posts g.config r) : g.handle fresh r = g.submit fresh r.body := by
  obtain ⟨method, path⟩ := posts
  have taken := posted_route g.config.commandsPath
  have mounted : route g.config.commandsPath g.config.commandsPath ≠ [] :=
    List.ne_nil_of_mem (taken_some taken).1
  have verb : verbOf? "POST" = some .post := rfl
  simp only [taken?] at taken
  simp only [Gateway.handle, method, path, verb, taken]
  simp [mounted, submitMount, Gateway.respond]

def queueAnswer (c : Config) (fresh : Uuid) : Except ExecutorError Unit → Answer
  | .ok () => answerOf 202 [("location", locationOf c.commandsPath fresh)] ""
  | .error e => explain 503 e.message

theorem queue_held {body : Bytes} {batch : Batch} (held : Batch.ofBytes body = .ok batch) :
    g.queue fresh body =
      (queueAnswer g.config fresh (g.rota.submit fresh batch).1,
        { g with rota := (g.rota.submit fresh batch).2 }) := by
  simp only [Gateway.queue, held]
  generalize g.rota.submit fresh batch = call
  obtain ⟨result, rota⟩ := call
  cases result <;> rfl

section Posted
variable (fresh : Uuid) (posts : Posts g.config r) (small : r.body.length ≤ bodyLimit)

include posts small

theorem handle_inline (mode : g.config.mode = .sync) :
    g.handle fresh r = .waiting g.rota.engine.errands.length
      { g with rota := g.rota.request g.rota.engine.errands.length r.body } := by
  rw [handle_posted posts, Gateway.submit, if_neg (Nat.not_lt_of_le small), mode]

theorem handle_rejected (mode : g.config.mode = .async) {e : BatchError}
    (refused : Batch.ofBytes r.body = .error e) :
    g.handle fresh r = .answered (emptyAnswer 400) g := by
  rw [handle_posted posts, Gateway.submit, if_neg (Nat.not_lt_of_le small), mode]
  simp only [Gateway.queue, refused]

theorem handle_queued (mode : g.config.mode = .async) {batch : Batch}
    (held : Batch.ofBytes r.body = .ok batch) :
    g.handle fresh r = .answered (queueAnswer g.config fresh (g.rota.submit fresh batch).1)
      { g with rota := (g.rota.submit fresh batch).2 } := by
  rw [handle_posted posts, Gateway.submit, if_neg (Nat.not_lt_of_le small), mode]
  simp only [queue_held held]

end Posted

/-- Everything that can become of a request. -/
inductive Handles (g : Gateway σ H) (fresh : Uuid) (r : Request) : Handling σ H → Prop
  | elsewhere (answer : Answer) (away : ¬ Posts g.config r) (other : answer.status ≠ 202) :
      Handles g fresh r (.answered answer g)
  | large (posts : Posts g.config r) (large : bodyLimit < r.body.length) :
      Handles g fresh r (.answered tooLarge g)
  | inline (posts : Posts g.config r) (small : r.body.length ≤ bodyLimit)
      (mode : g.config.mode = .sync) :
      Handles g fresh r (.waiting g.rota.engine.errands.length
        { g with rota := g.rota.request g.rota.engine.errands.length r.body })
  | rejected (posts : Posts g.config r) (small : r.body.length ≤ bodyLimit)
      (mode : g.config.mode = .async) (e : BatchError) (refused : Batch.ofBytes r.body = .error e) :
      Handles g fresh r (.answered (emptyAnswer 400) g)
  | queued (posts : Posts g.config r) (small : r.body.length ≤ bodyLimit)
      (mode : g.config.mode = .async) (batch : Batch) (held : Batch.ofBytes r.body = .ok batch) :
      Handles g fresh r (.answered (queueAnswer g.config fresh (g.rota.submit fresh batch).1)
        { g with rota := (g.rota.submit fresh batch).2 })

theorem handle_cases (g : Gateway σ H) (fresh : Uuid) (r : Request) :
    Handles g fresh r (g.handle fresh r) := by
  by_cases posts : Posts g.config r
  · by_cases large : bodyLimit < r.body.length
    · rw [handle_posted posts, Gateway.submit, if_pos large]
      exact .large posts large
    · have small := Nat.le_of_not_lt large
      cases mode : g.config.mode with
      | sync =>
        rw [handle_inline fresh posts small mode]
        exact .inline posts small mode
      | async =>
        cases held : Batch.ofBytes r.body with
        | error e =>
          rw [handle_rejected fresh posts small mode held]
          exact .rejected posts small mode e held
        | ok batch =>
          rw [handle_queued fresh posts small mode held]
          exact .queued posts small mode batch held
  · obtain ⟨answer, handled, other⟩ := handle_elsewhere g fresh posts
    rw [handled]
    exact .elsewhere answer posts other

theorem handle_config : (g.handle fresh r).gateway.config = g.config := by
  have cases := handle_cases g fresh r
  generalize g.handle fresh r = handling at cases
  cases cases <;> rfl

end Answers
end CommandGateway.Api
