import CommandGateway.Work

/- Courses that work can take when nothing is known of the answers: each may be any, and differ from
   an earlier answer to the same call. What holds of every course holds whatever the robot does and
   in whatever order other work gets its turns. -/
namespace CommandGateway

/-- One deed of work, with the answer that it got. -/
inductive Deed (H : Type) where
  | logged (event : Event)
  | acquired (service : String) (reply : Reply (Option H))
  | spoke (handle : H) (text : String) (reply : Reply Unit)

variable {H α β : Type}

inductive Course : Work H α → List (Deed H) → α → Prop where
  | done (a : α) : Course (.done a) [] a
  | log (event : Event) {next : Work H α} {deeds : List (Deed H)} {a : α}
      (rest : Course next deeds a) : Course (.log event next) (.logged event :: deeds) a
  | acquire (service : String) (reply : Reply (Option H)) {next : Reply (Option H) → Work H α}
      {deeds : List (Deed H)} {a : α} (rest : Course (next reply) deeds a) :
      Course (.acquire service next) (.acquired service reply :: deeds) a
  | speak (handle : H) (text : String) (reply : Reply Unit) {next : Reply Unit → Work H α}
      {deeds : List (Deed H)} {a : α} (rest : Course (next reply) deeds a) :
      Course (.speak handle text next) (.spoke handle text reply :: deeds) a

/-- The results that work may end with. -/
def Work.canEnd (work : Work H α) (a : α) : Prop := ∃ deeds, Course work deeds a

theorem course_done_iff {a b : α} {deeds : List (Deed H)} :
    Course (.done a) deeds b ↔ deeds = [] ∧ b = a := by
  constructor
  · rintro ⟨⟩
    exact ⟨rfl, rfl⟩
  · rintro ⟨rfl, rfl⟩
    exact Course.done b

theorem course_log_iff {event : Event} {next : Work H α} {a : α} {deeds : List (Deed H)} :
    Course (.log event next) deeds a ↔
      ∃ rest, deeds = .logged event :: rest ∧ Course next rest a := by
  constructor
  · rintro ⟨⟩
    rename_i rest course
    exact ⟨rest, rfl, course⟩
  · rintro ⟨rest, rfl, course⟩
    exact Course.log event course

theorem bind_course {work : Work H α} {f : α → Work H β} {deeds : List (Deed H)} {b : β}
    (course : Course (work.bind f) deeds b) :
    ∃ first a second, deeds = first ++ second ∧ Course work first a ∧ Course (f a) second b := by
  induction work generalizing deeds with
  | done a => exact ⟨[], a, deeds, rfl, Course.done a, course⟩
  | log event next ih =>
    obtain ⟨rest, rfl, tail⟩ := course_log_iff.mp course
    obtain ⟨first, a, second, rfl, before, after⟩ := ih tail
    exact ⟨_, a, second, rfl, Course.log event before, after⟩
  | acquire service next ih =>
    cases course with
    | acquire _ reply rest =>
      obtain ⟨first, a, second, rfl, before, after⟩ := ih reply rest
      exact ⟨_, a, second, rfl, Course.acquire service reply before, after⟩
  | speak handle text next ih =>
    cases course with
    | speak _ _ reply rest =>
      obtain ⟨first, a, second, rfl, before, after⟩ := ih reply rest
      exact ⟨_, a, second, rfl, Course.speak handle text reply before, after⟩

section Ends
variable {a : α}

theorem can_end_log {event : Event} {next : Work H α} (later : next.canEnd a) :
    (Work.log event next).canEnd a := by
  obtain ⟨deeds, course⟩ := later
  exact ⟨_, Course.log event course⟩

theorem can_end_acquire {service : String} {next : Reply (Option H) → Work H α}
    (reply : Reply (Option H)) (later : (next reply).canEnd a) :
    (Work.acquire service next).canEnd a := by
  obtain ⟨deeds, course⟩ := later
  exact ⟨_, Course.acquire service reply course⟩

theorem can_end_speak {handle : H} {text : String} {next : Reply Unit → Work H α}
    (reply : Reply Unit) (later : (next reply).canEnd a) :
    (Work.speak handle text next).canEnd a := by
  obtain ⟨deeds, course⟩ := later
  exact ⟨_, Course.speak handle text reply course⟩

end Ends

theorem run_onto_can_end {σ : Type} (work : Work H α) (past : List (Happening H))
    (a : Accessor σ H) : work.canEnd (work.runOnto past a).1 := by
  induction work generalizing past a with
  | done result => exact ⟨[], Course.done result⟩
  | log event next ih => exact can_end_log (ih _ a)
  | acquire service next ih => exact can_end_acquire (a.acquire service).1 (ih _ _ _)
  | speak handle text next ih => exact can_end_speak (a.speak handle text).1 (ih _ _ _)

theorem run_can_end {σ : Type} (work : Work H α) (a : Accessor σ H) : work.canEnd (work.run a).1 :=
  run_onto_can_end work [] a

theorem has_course {σ : Type} (a : Accessor σ H) (work : Work H α) :
    ∃ deeds result, Course work deeds result := by
  obtain ⟨deeds, course⟩ := run_can_end work a
  exact ⟨deeds, _, course⟩

end CommandGateway
