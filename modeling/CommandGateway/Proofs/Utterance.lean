import CommandGateway.Proofs.Engine.Speech
import CommandGateway.Proofs.Inline
import CommandGateway.Proofs.Json.Spelling

/- What saying comes to, told by the accessor and by the arguments one by one. The text is tested
   for blanks only when all arguments are joined, but that comes to a test of each: nothing but null
   and texts of blanks is without a visible character, as every other value is written with one. -/
namespace CommandGateway

open Json

variable {σ H α : Type}

/-- An argument from which nothing can be heard. -/
inductive Silent : Value → Prop
  | null : Silent .null
  | blanks (s : String) (blank : ∀ c ∈ s.toList, Text.isBlank c = true) : Silent (.string s)

def isNull : Value → Bool
  | .null => true
  | _ => false

/-- A text stands for itself, and any other value for its JSON text. -/
def entryText : Value → String
  | .string s => s
  | v => v.render

/-- The texts of all arguments but null, with a space between each two. -/
def utterance (args : List Value) : String :=
  " ".intercalate ((args.filter fun v => !isNull v).map entryText)

def Visible (s : String) : Prop := ∃ c ∈ s.toList, Text.isBlank c = false

section Texts
variable {s t : String} {v : Value} {args : List Value}

theorem visible_iff : Visible s ↔ Text.isBlankText s = false := by
  simp [Visible, Text.isBlankText]

theorem blank_text_iff : Text.isBlankText s = true ↔ ∀ c ∈ s.toList, Text.isBlank c = true :=
  List.all_eq_true

theorem visible_left (visible : Visible s) (t : String) : Visible (s ++ t) := by
  obtain ⟨c, member, ink⟩ := visible
  exact ⟨c, by simp [member], ink⟩

theorem visible_right (s : String) (visible : Visible t) : Visible (s ++ t) := by
  obtain ⟨c, member, ink⟩ := visible
  exact ⟨c, by simp [member], ink⟩

theorem digits_visible (n : Nat) : Visible (toString n) := by
  obtain ⟨c, cs, digits⟩ := List.exists_cons_of_ne_nil (Nat.toDigits_ne_nil (b := 10) (n := n))
  have spelt : (toString n).toList = c :: cs := by simpa using digits
  obtain ⟨least, most⟩ := digits_of n c (by simp [digits])
  refine ⟨c, spelt ▸ List.mem_cons_self, ?_⟩
  simp only [Text.isBlank, Bool.or_eq_false_iff, Bool.and_eq_false_iff, decide_eq_false_iff_not]
  omega

theorem int_visible (n : Int) : Visible (toString n) := by
  cases n with
  | ofNat n => exact digits_visible n
  | negSucc n => exact visible_right "-" (digits_visible (n + 1))

theorem exponent_visible (e : Int) : Visible (exponentText e) := by
  unfold exponentText
  split <;> exact visible_left ⟨'e', by decide, by decide⟩ _

theorem short_visible (format : FractionFormat) (d : Decimal.Short) :
    Visible (shortText format d) := by
  have point : Visible "." := ⟨'.', by decide, by decide⟩
  have zero : Visible ".0" := ⟨'.', by decide, by decide⟩
  unfold shortText
  simp only
  split
  · split
    · rename_i none
      exact absurd none Nat.toDigits_ne_nil
    · exact visible_right _ (exponent_visible _)
    · exact visible_right _ (exponent_visible _)
  · split
    · exact visible_left ⟨'0', by decide, by decide⟩ _
    · split
      · exact visible_right _ zero
      · exact visible_left (visible_right _ point) _

theorem float_visible (bits : UInt64) : Visible (floatText bits) := by
  unfold floatText
  simp only
  split
  · exact visible_right _ ⟨'0', by decide, by decide⟩
  · exact visible_right _ (short_visible _ _)

theorem render_visible (v : Value) : Visible v.render := by
  cases v with
  | null => exact ⟨'n', by decide, by decide⟩
  | bool b => cases b <;> exact ⟨'e', by decide, by decide⟩
  | int n => exact int_visible n
  | float bits => exact float_visible bits
  | string s => exact visible_left (visible_left ⟨'"', by decide, by decide⟩ _) _
  | array items => exact visible_left (visible_left ⟨'[', by decide, by decide⟩ _) _
  | object members => exact visible_left (visible_left ⟨'\x7b', by decide, by decide⟩ _) _

theorem argument_silent_iff (v : Value) :
    (∀ t ∈ argumentText v, Text.isBlankText t = true) ↔ Silent v := by
  have other : ∀ v : Value, argumentText v = some v.render → ¬ Silent v →
      ((∀ t ∈ argumentText v, Text.isBlankText t = true) ↔ Silent v) := by
    intro v written audible
    refine iff_of_false (fun blank => ?_) audible
    have seen := visible_iff.mp (render_visible v)
    simp [blank v.render written] at seen
  cases v with
  | null => exact iff_of_true nofun .null
  | string s =>
    constructor
    · exact fun blank => .blanks s (blank_text_iff.mp (blank s rfl))
    · rintro (_ | ⟨_, blank⟩) t given
      exact Option.some.inj given ▸ blank_text_iff.mpr blank
  | _ => exact other _ rfl nofun

theorem spaced_blank_iff (texts : List String) :
    Text.isBlankText (" ".intercalate texts) = true ↔ ∀ t ∈ texts, Text.isBlankText t = true := by
  induction texts with
  | nil => simp [Text.isBlankText]
  | cons t rest ih =>
    cases rest with
    | nil => simp
    | cons u rest =>
      have space : Text.isBlankText " " = true := by decide
      have parts : ∀ s t : String, Text.isBlankText (s ++ t) =
          (Text.isBlankText s && Text.isBlankText t) := by simp [Text.isBlankText]
      rw [List.forall_mem_cons, ← ih, String.intercalate_cons_cons, parts, parts, space]
      simp

theorem joined_blank_iff (args : List Value) :
    Text.isBlankText (joinArgs args) = true ↔ ∀ v ∈ args, Silent v := by
  rw [joinArgs, spaced_blank_iff]
  constructor
  · intro blank v member
    exact (argument_silent_iff v).mp fun t given =>
      blank t (List.mem_filterMap.mpr ⟨v, member, given⟩)
  · intro silent t member
    obtain ⟨v, here, given⟩ := List.mem_filterMap.mp member
    exact (argument_silent_iff v).mpr (silent v here) t given

theorem join_args_utterance (args : List Value) : joinArgs args = utterance args := by
  have texts : args.filterMap argumentText =
      (args.filter fun v => !isNull v).map entryText := by
    induction args with
    | nil => rfl
    | cons v rest ih =>
      cases v <;> simp [List.filterMap_cons, argumentText, isNull, entryText, ih]
  rw [joinArgs, texts, utterance]

end Texts

/-- Nothing is kept for the service, and the lookup that is made for it ends with an error. -/
def LookupFails (a : Accessor σ H) (service : String) : Prop :=
  ∃ connector e, a.connector = some connector ∧ handleFor service a.handles = none ∧
    (connector.lookup service a.robot).1.1 = .returned (.error e)

section Acquiring
variable {service : String} {a : Accessor σ H}

theorem acquire_connector : (a.acquire service).2.2.connector = a.connector := by
  unfold Accessor.acquire
  split
  · rfl
  · split
    · rfl
    · exact Engine.keep_connector _ _

theorem acquire_mute : (a.acquire service).2.1.filterMap Engine.speechOf = [] := by
  unfold Accessor.acquire
  split
  · rfl
  · split
    · rfl
    · exact Engine.look_up_mute _ _ _

theorem run_course {connector : Connector σ H} (work : Work H α)
    (online : a.connector = some connector) :
    ∃ deeds, Course work deeds (work.run a).1 ∧
      (work.run a).2.1.filterMap Engine.speechOf = speeches deeds := by
  induction work generalizing a with
  | done result => exact ⟨[], .done result, rfl⟩
  | log event next ih =>
    obtain ⟨deeds, course, same⟩ := ih online
    rw [run_log]
    exact ⟨_, .log event course, same⟩
  | acquire service next ih =>
    obtain ⟨deeds, course, same⟩ := ih (a.acquire service).1 (acquire_connector.trans online)
    rw [run_acquire]
    refine ⟨_, .acquire service (a.acquire service).1 course, ?_⟩
    rw [List.filterMap_append, acquire_mute, same]
    rfl
  | speak handle text next ih =>
    have answered : a.speak handle text = ((connector.speak handle text a.robot).1,
        [.spoke handle text (connector.speak handle text a.robot).1],
        { a with robot := (connector.speak handle text a.robot).2 }) := by
      simp [Accessor.speak, online]
    obtain ⟨deeds, course, same⟩ := ih (a.speak handle text).1
      (a := (a.speak handle text).2.2) (by rw [answered]; exact online)
    rw [run_speak]
    refine ⟨_, .speak handle text (a.speak handle text).1 course, ?_⟩
    rw [List.filterMap_append, same, answered]
    rfl

theorem acquire_none_iff : (a.acquire service).1 = .returned (.ok none) ↔ a.isOffline = true := by
  unfold Accessor.acquire Accessor.isOffline
  split
  · rename_i offline
    simp [offline]
  · rename_i connector online
    split
    · simp [online]
    · simp only [online, Option.isNone_some, Bool.false_eq_true, iff_false]
      unfold found
      split <;> simp

theorem acquire_error_iff :
    (∃ e, (a.acquire service).1 = .returned (.error e)) ↔ LookupFails a service := by
  unfold Accessor.acquire LookupFails
  split
  · rename_i offline
    simp [offline]
  · rename_i connector online
    split
    · rename_i handle kept
      simp [online, kept]
    · rename_i unknown
      simp only [online, unknown, Accessor.lookUp]
      unfold found
      split <;> simp_all

end Acquiring

structure Answered (reply : Reply Unit) (ended : Handled) : Prop where
  performed : ended = .returned (.ok .performed) ↔ reply = .returned (.ok ())
  failed : ∀ e, ended = .returned (.error (.actuator e)) ↔ reply = .returned (.error e)
  panicked : ∀ p, ended = .panicked p ↔ reply = .panicked p

/-- What saying decides, in the order of its tests: first by what it has got of the accessor, then
    by the arguments, and last by the answer of the robot to the only text it is given. -/
structure Decided (args : List Value) (got : Reply (Option H)) (spoken : List (Speech H))
    (ended : Handled) : Prop where
  unavailable : ended = .returned (.ok (.skipped .actuatorUnavailable)) ↔ got = .returned (.ok none)
  unresolved : ended = .returned (.ok (.skipped .actuatorUnresolved)) ↔
    ∃ e, got = .returned (.error e)
  noArguments : ended = .returned (.ok (.skipped .noArguments)) ↔
    (∃ handle, got = .returned (.ok (some handle))) ∧ args = []
  noValidText : ended = .returned (.ok (.skipped .noValidText)) ↔
    (∃ handle, got = .returned (.ok (some handle))) ∧ args ≠ [] ∧ ∀ v ∈ args, Silent v
  otherwise : ∀ handle, got = .returned (.ok (some handle)) → (∃ v ∈ args, ¬ Silent v) →
    ∃ reply, spoken = [⟨handle, utterance args, reply⟩] ∧ Answered reply ended
  skips : ∀ reason, ended = .returned (.ok (.skipped reason)) → spoken = []
  broken : ∀ p, got = .panicked p → ended = .panicked p ∧ spoken = []

def Deed.acquisition? : Deed H → Option (String × Reply (Option H))
  | .acquired service reply => some (service, reply)
  | _ => none

/-- What saying comes to, when any call may be given any answer and when it runs at once. -/
structure Saying (service : String) (args : List Value) (work : Work H Handled) : Prop where
  courses : ∀ deeds ended, Course work deeds ended →
    ∃ got, deeds.filterMap Deed.acquisition? = [(service, got)] ∧
      Decided args got (speeches deeds) ended
  runs : ∀ {σ : Type} (a : Accessor σ H),
    Decided args (a.acquire service).1 ((work.run a).2.1.filterMap Engine.speechOf) (work.run a).1
  offline : ∀ {σ : Type} (a : Accessor σ H),
    (work.run a).1 = .returned (.ok (.skipped .actuatorUnavailable)) ↔ a.isOffline = true
  lookup : ∀ {σ : Type} (a : Accessor σ H),
    (work.run a).1 = .returned (.ok (.skipped .actuatorUnresolved)) ↔ LookupFails a service

section Decisions
variable {service : String} {args : List Value} {deeds : List (Deed H)} {ended : Handled}

theorem spoken_end_answered (reply : Reply Unit) : Answered reply (spokenEnd reply) := by
  match reply with
  | .returned (.ok ()) | .returned (.error e) | .panicked p => constructor <;> simp [spokenEnd]

theorem spoken_end_no_skip (reply : Reply Unit) (reason : SkipReason) :
    spokenEnd reply ≠ .returned (.ok (.skipped reason)) := by
  match reply with
  | .returned (.ok ()) | .returned (.error e) | .panicked p => simp [spokenEnd]

/-- By the cases of what saying can come to; blank text is told by the arguments. -/
theorem said_decided (said : Said service args deeds ended) :
    ∃ got, deeds.filterMap Deed.acquisition? = [(service, got)] ∧
      Decided args got (speeches deeds) ended := by
  cases said with
  | unavailable | unresolved | broken =>
    refine ⟨_, rfl, ?_⟩
    constructor <;> simp [speeches, Deed.speech?]
  | noArguments handle none =>
    refine ⟨_, rfl, ?_⟩
    constructor <;> simp [speeches, Deed.speech?, none]
  | noText handle some blank =>
    have silent := (joined_blank_iff args).mp blank
    refine ⟨_, rfl, ?_⟩
    constructor
    case otherwise =>
      rintro _ - ⟨v, member, loud⟩
      exact absurd (silent v member) loud
    all_goals simp [speeches, Deed.speech?, some]
    exact silent
  | spoken handle reply some audible =>
    have loud : ¬ ∀ v ∈ args, Silent v := by
      rw [← joined_blank_iff, audible]
      exact Bool.false_ne_true
    refine ⟨_, rfl, ?_⟩
    constructor
    case otherwise =>
      rintro _ ⟨⟩ -
      exact ⟨reply, by rw [join_args_utterance]; rfl, spoken_end_answered reply⟩
    all_goals simp [spoken_end_no_skip, some]
    simpa using loud

theorem decided_acquired {got reply : Reply (Option H)}
    (acquired : (Deed.acquired service reply :: deeds).filterMap Deed.acquisition? =
      [(service, got)]) : got = reply := by
  simp only [List.filterMap_cons, Deed.acquisition?, List.cons.injEq, Prod.mk.injEq, true_and]
    at acquired
  exact acquired.1.symm

theorem say_run_decided (service : String) (args : List Value) (a : Accessor σ H)
    {work : Work H Handled} (started : say service args = .started work) :
    Decided args (a.acquire service).1 ((work.run a).2.1.filterMap Engine.speechOf)
      (work.run a).1 := by
  cases started
  cases connected : a.connector with
  | none =>
    simp only [Work.run, Work.runOnto, Accessor.acquire, connected, skip]
    constructor <;> simp [Engine.speechOf]
  | some connector =>
    rw [run_acquire, List.filterMap_append, acquire_mute, List.nil_append]
    obtain ⟨deeds, course, same⟩ := run_course _ (acquire_connector.trans connected)
    have said : Said service args (.acquired service (a.acquire service).1 :: deeds) _ :=
      say_course rfl (.acquire service _ course)
    obtain ⟨got, acquired, decided⟩ := said_decided said
    obtain rfl := decided_acquired acquired
    rw [same]
    exact decided

/-- Saying tests what the accessor has, then whether there are arguments, then whether one of them
    can be heard; only after all three is a text spoken, once. -/
theorem say_decides_in_order (service : String) (args : List Value) :
    ∃ work : Work H Handled, say service args = .started work ∧ Saying service args work := by
  refine ⟨_, rfl, ?_⟩
  constructor
  case courses =>
    intro deeds ended course
    exact said_decided (say_course rfl course)
  case runs => exact fun a => say_run_decided service args a rfl
  case offline =>
    intro σ a
    rw [(say_run_decided service args a rfl).unavailable]
    exact acquire_none_iff
  case lookup =>
    intro σ a
    rw [(say_run_decided service args a rfl).unresolved]
    exact acquire_error_iff

example : utterance [.null, .string " ", .int 5, .string "", .array [.bool true]] =
    "  5  [true]" := by
  decide

end Decisions

end CommandGateway
