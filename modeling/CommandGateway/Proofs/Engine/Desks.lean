import CommandGateway.Proofs.Engine.Turns

/- No errand of a rota is forgotten. Whoever can go on has a turn to come; whoever waits for a
   service stands in line at its desk, where the holder's answer wakes it; and whoever waits for the
   robot is woken when the answer arrives or the utterance ends. -/
namespace CommandGateway.Engine

open Pool

variable {σ H : Type}

/-- Nobody waits for a service at a desk. -/
def Unlined (r : Rota σ H) (owner : Owner) : Prop :=
  ∀ service desk, deskOf service r.desks = some desk → owner ∉ desk.line

/-- An errand that nothing but its own turn will bring on. -/
structure Unparked (r : Rota σ H) (owner : Owner) : Prop where
  line : Unlined r owner
  answer : owner ∉ r.expecting
  gate : ∀ text, (owner, text) ∉ r.stalled

/-- What will wake an errand that stands so, unless it has its turn anyway. Whoever looks a service
    up has the desk for it. -/
def Placed (r : Rota σ H) (owner : Owner) : Standing → Prop
  | .ready => .errand owner ∈ r.ready
  | .waiting service => .errand owner ∈ r.ready ∨
      ∃ desk, deskOf service r.desks = some desk ∧ owner ∈ desk.line
  | .lookingUp service _ => (.errand owner ∈ r.ready ∨ owner ∈ r.expecting) ∧
      ∃ desk, deskOf service r.desks = some desk ∧ desk.holder = owner
  | _ => True

def Holds (r : Rota σ H) (service : String) (owner : Owner) : Prop :=
  standingOf r.engine owner = some (.waiting service) ∧ .errand owner ∈ r.ready ∨
    ∃ succeeds, standingOf r.engine owner = some (.lookingUp service succeeds)

structure Attended (r : Rota σ H) (service : String) (desk : Desk) : Prop where
  unknown : handleFor service r.engine.scene.accessor.handles = none
  holder : Holds r service desk.holder
  once : desk.line.Nodup
  line : ∀ owner ∈ desk.line, standingOf r.engine owner = some (.waiting service)

/-- No errand is forgotten: whoever could go on has a turn to come, and all others are woken by
    whatever they wait for. -/
structure Wakeful (r : Rota σ H) : Prop where
  order : Lasting r.ready
  parked : ∀ owner, .errand owner ∈ r.ready → Unparked r owner
  placed : ∀ owner standing, standingOf r.engine owner = some standing → Placed r owner standing
  desks : ∀ service desk, deskOf service r.desks = some desk → Attended r service desk
  expecting : ∀ owner ∈ r.expecting,
    ∃ service succeeds, standingOf r.engine owner = some (.lookingUp service succeeds)
  stalled : ∀ owner text, (owner, text) ∈ r.stalled →
    ∃ text, standingOf r.engine owner = some (.speaking text)

section Waking
variable {r q : Rota σ H} {owner : Owner}

theorem step_wakeful (owner : Owner) {e : Engine σ H} (wakeful : Wakeful r)
    (free : Unparked r owner)
    (others : ∀ p, p ≠ owner → standingOf e p = standingOf r.engine p)
    (unknown : ∀ service desk, deskOf service r.desks = some desk →
      handleFor service e.scene.accessor.handles = none)
    (placed : ∀ standing, standingOf e owner = some standing → Placed r owner standing)
    (holds : ∀ service desk, deskOf service r.desks = some desk → desk.holder = owner →
      Holds { r with engine := e } service owner) :
    Wakeful { r with engine := e } := by
  have kept : ∀ {p standing}, p ≠ owner → standingOf r.engine p = some standing →
      standingOf e p = some standing := fun other stands => (others _ other).trans stands
  refine ⟨wakeful.order, fun p turn => ?_, fun p standing stands => ?_,
    fun service desk found => ?_, fun p expects => ?_, fun p text stalls => ?_⟩
  · have apart := wakeful.parked p turn
    exact ⟨apart.line, apart.answer, apart.gate⟩
  · by_cases same : p = owner
    · subst same
      exact placed standing stands
    · exact wakeful.placed p standing ((others p same).symm.trans stands)
  · obtain ⟨-, holder, once, line⟩ := wakeful.desks service desk found
    refine ⟨unknown service desk found, ?_, once, fun p member => ?_⟩
    · by_cases same : desk.holder = owner
      · exact same ▸ holds service desk found same
      · exact holder.imp (fun waits => ⟨kept same waits.1, waits.2⟩)
          (fun ⟨succeeds, looks⟩ => ⟨succeeds, kept same looks⟩)
    · exact kept (fun same => free.line service desk found (same ▸ member)) (line p member)
  · obtain ⟨service, succeeds, looks⟩ := wakeful.expecting p expects
    exact ⟨service, succeeds, kept (fun same => free.answer (same ▸ expects)) looks⟩
  · obtain ⟨said, speaks⟩ := wakeful.stalled p text stalls
    exact ⟨said, kept (fun same => free.gate text (same ▸ stalls)) speaks⟩

theorem wake_wakeful {threads : List Thread} (expecting : List Owner)
    (stalled : List (Owner × String)) (wakeful : Wakeful r)
    (fewer : ∀ p ∈ expecting, p ∈ r.expecting)
    (woken : ∀ p ∈ r.expecting, p ∈ expecting ∨ .errand p ∈ threads)
    (fewer' : ∀ p ∈ stalled, p ∈ r.stalled)
    (free : ∀ p, .errand p ∈ threads →
      Unparked { r with expecting := expecting, stalled := stalled } p) :
    Wakeful ({ r with expecting := expecting, stalled := stalled }.wake threads) := by
  obtain ⟨lasting, members⟩ := woken_lasting threads wakeful.order
  have stays : ∀ {u}, u ∈ r.ready → u ∈ Engine.woken threads r.ready :=
    fun here => (members _).mpr (.inl here)
  rw [wake_eq]
  refine ⟨lasting, fun p turn => ?_, fun p standing stands => ?_, fun service desk found => ?_,
    fun p expects => wakeful.expecting p (fewer p expects),
    fun p text stalls => wakeful.stalled p text (fewer' _ stalls)⟩
  · rcases (members _).mp turn with had | new
    · have apart := wakeful.parked p had
      exact ⟨apart.line, fun expects => apart.answer (fewer p expects),
        fun text stalls => apart.gate text (fewer' _ stalls)⟩
    · have apart := free p new
      exact ⟨apart.line, apart.answer, apart.gate⟩
  · have placed := wakeful.placed p standing stands
    cases standing with
    | ready => exact stays placed
    | waiting service => exact placed.imp_left stays
    | lookingUp service succeeds =>
      refine ⟨?_, placed.2⟩
      rcases placed.1 with turn | expects
      · exact .inl (stays turn)
      · exact (woken p expects).symm.imp_left fun new => (members _).mpr (.inr new)
    | speaking | finished => trivial
  · have attended := wakeful.desks service desk found
    exact ⟨attended.unknown, attended.holder.imp_left fun waits => ⟨waits.1, stays waits.2⟩,
      attended.once, attended.line⟩

theorem yield_wakeful {t : Thread} {rest : List Thread} {expecting : List Owner}
    {stalled : List (Owner × String)} (wakeful : Wakeful r) (head : r.ready = t :: rest)
    (more : ∀ p ∈ r.expecting, p ∈ expecting)
    (new : ∀ p ∈ expecting, p ∈ r.expecting ∨ t = .errand p ∧
      ∃ service succeeds, standingOf r.engine p = some (.lookingUp service succeeds))
    (new' : ∀ p text, (p, text) ∈ stalled → (p, text) ∈ r.stalled ∨ t = .errand p ∧
      ∃ said, standingOf r.engine p = some (.speaking said))
    (done : ∀ p standing, t = .errand p → standingOf r.engine p = some standing →
      standing = .finished ∨ (∃ text, standing = .speaking text) ∨
        (∃ service succeeds, standing = .lookingUp service succeeds) ∧ p ∈ expecting) :
    Wakeful { r.yield with expecting := expecting, stalled := stalled } := by
  have behind : ∀ {u : Thread}, u ∈ r.ready → u = t ∨ u ∈ r.ready.tail := by
    intro u member
    simpa [head] using member
  have out : t ∉ r.ready.tail := by
    have once := wakeful.order.once
    rw [head] at once ⊢
    exact (List.nodup_cons.mp once).1
  refine ⟨tail_lasting wakeful.order, fun p turn => ?_, fun p standing stands => ?_,
    fun service desk found => ?_, fun p expects => ?_, fun p text stalls => ?_⟩
  · have apart := wakeful.parked p (List.mem_of_mem_tail turn)
    have other : t ≠ .errand p := fun same => out (same ▸ turn)
    exact ⟨apart.line, fun expects => (new p expects).elim apart.answer fun own => other own.1,
      fun text stalls => (new' p text stalls).elim (apart.gate text) fun own => other own.1⟩
  · have placed := wakeful.placed p standing stands
    by_cases own : t = .errand p
    · rcases done p standing own stands with rfl | ⟨text, rfl⟩ | ⟨⟨service, succeeds, rfl⟩, expects⟩
      · trivial
      · trivial
      · exact ⟨.inr expects, placed.2⟩
    · have stays : .errand p ∈ r.ready → .errand p ∈ r.ready.tail :=
        fun turn => (behind turn).resolve_left (Ne.symm own)
      cases standing with
      | ready => exact stays placed
      | waiting service => exact placed.imp_left stays
      | lookingUp service succeeds => exact ⟨placed.1.imp stays (more p), placed.2⟩
      | speaking | finished => trivial
  · have attended := wakeful.desks service desk found
    refine ⟨attended.unknown, ?_, attended.once, attended.line⟩
    rcases attended.holder with ⟨waits, turn⟩ | looks
    · refine .inl ⟨waits, (behind turn).resolve_left fun own => ?_⟩
      simpa using done _ _ own.symm waits
    · exact .inr looks
  · exact (new p expects).elim (wakeful.expecting p) And.right
  · exact (new' p text stalls).elim (wakeful.stalled p text) And.right

theorem desk_of_service {service : String} {desk : Desk} {desks : List Desk}
    (found : deskOf service desks = some desk) : desk.service = service := by
  simpa using List.find?_some found

theorem desk_of_set (r : Rota σ H) (service : String) (desk : Option Desk)
    (own : ∀ d, desk = some d → d.service = service) (name : String) :
    deskOf name (r.setDesk service desk).desks =
      if name = service then desk else deskOf name r.desks := by
  have others : deskOf name (r.desks.filter (·.service ≠ service)) =
      if name = service then none else deskOf name r.desks := by
    simp only [deskOf, List.find?_filter]
    split
    · rename_i same
      simp [same]
    · rename_i other
      refine congrArg (r.desks.find? ·) (funext fun d => ?_)
      by_cases owns : d.service = name
      · simp [owns, other]
      · simp [owns]
  cases desk with
  | none => simpa [Rota.setDesk] using others
  | some d =>
    have owns := own d rfl
    have first : deskOf name (r.setDesk service (some d)).desks =
        if d.service = name then some d
        else deskOf name (r.desks.filter (·.service ≠ service)) := by
      simp only [Rota.setDesk, deskOf, Option.toList_some, List.singleton_append, List.find?_cons]
      by_cases here : d.service = name <;> simp [here]
    rw [first, others, owns]
    by_cases same : name = service <;> simp [same, Ne.symm]

theorem take_desk_wakeful {service : String} (wakeful : Wakeful r)
    (empty : deskOf service r.desks = none)
    (unknown : handleFor service r.engine.scene.accessor.handles = none)
    (waits : standingOf r.engine owner = some (.waiting service))
    (turn : .errand owner ∈ r.ready) :
    Wakeful (r.setDesk service (some ⟨service, owner, []⟩)) := by
  have desks := desk_of_set r service (some ⟨service, owner, []⟩) (by rintro d ⟨⟩; rfl)
  have stays : ∀ {name desk}, deskOf name r.desks = some desk →
      deskOf name (r.setDesk service (some ⟨service, owner, []⟩)).desks = some desk := by
    intro name desk found
    rw [desks, if_neg, found]
    rintro rfl
    simp [empty] at found
  refine ⟨wakeful.order, fun p turn => ?_, fun p standing stands => ?_, fun name desk found => ?_,
    wakeful.expecting, wakeful.stalled⟩
  · have apart := wakeful.parked p turn
    refine ⟨fun name desk found => ?_, apart.answer, apart.gate⟩
    rw [desks] at found
    split at found
    · cases found
      exact List.not_mem_nil
    · exact apart.line name desk found
  · have placed := wakeful.placed p standing stands
    cases standing with
    | ready => exact placed
    | waiting name => exact placed.imp_right fun ⟨desk, found, lined⟩ => ⟨desk, stays found, lined⟩
    | lookingUp name succeeds =>
      obtain ⟨place, desk, found, holds⟩ := placed
      exact ⟨place, desk, stays found, holds⟩
    | speaking | finished => trivial
  · rw [desks] at found
    split at found
    · rename_i same
      cases found
      subst same
      exact ⟨unknown, .inl ⟨waits, turn⟩, List.nodup_nil, nofun⟩
    · have attended := wakeful.desks name desk found
      exact ⟨attended.unknown, attended.holder, attended.once, attended.line⟩

theorem join_wakeful {service : String} {desk : Desk} {rest : List Thread} (wakeful : Wakeful r)
    (head : r.ready = .errand owner :: rest) (found : deskOf service r.desks = some desk)
    (waits : standingOf r.engine owner = some (.waiting service)) (other : desk.holder ≠ owner) :
    Wakeful (r.setDesk service (some { desk with line := desk.line ++ [owner] })).yield := by
  have free := wakeful.parked owner (by simp [head])
  have attended := wakeful.desks service desk found
  have owns := desk_of_service found
  have desks := desk_of_set r service (some { desk with line := desk.line ++ [owner] })
    (by rintro d ⟨⟩; exact owns)
  have out : .errand owner ∉ r.ready.tail := by
    have once := wakeful.order.once
    rw [head] at once ⊢
    exact (List.nodup_cons.mp once).1
  have stays : ∀ {p}, p ≠ owner → .errand p ∈ r.ready → .errand p ∈ r.ready.tail := by
    intro p apart turn
    simpa [head, apart] using turn
  refine ⟨tail_lasting wakeful.order, fun p turn => ?_, fun p standing stands => ?_,
    fun name place here => ?_, wakeful.expecting, wakeful.stalled⟩
  · have apart := wakeful.parked p (List.mem_of_mem_tail turn)
    refine ⟨fun name place here => ?_, apart.answer, apart.gate⟩
    rw [Rota.yield, desks] at here
    split at here
    · cases here
      refine List.mem_append.not.mpr (not_or.mpr ⟨apart.line service desk found, ?_⟩)
      rintro member
      exact out (List.mem_singleton.mp member ▸ turn)
    · exact apart.line name place here
  · have placed := wakeful.placed p standing stands
    by_cases own : p = owner
    · subst own
      cases waits.symm.trans stands
      refine .inr ⟨_, (desks service).trans (if_pos rfl), ?_⟩
      simp
    · cases standing with
      | ready => exact stays own placed
      | waiting name =>
        refine placed.imp (stays own) fun ⟨place, here, lined⟩ => ?_
        by_cases same : name = service
        · subst same
          cases found.symm.trans here
          exact ⟨_, (desks name).trans (if_pos rfl), List.mem_append_left _ lined⟩
        · exact ⟨place, (desks name).trans ((if_neg same).trans here), lined⟩
      | lookingUp name succeeds =>
        obtain ⟨turn, place, here, holds⟩ := placed
        refine ⟨turn.imp_left (stays own), ?_⟩
        by_cases same : name = service
        · subst same
          cases found.symm.trans here
          exact ⟨_, (desks name).trans (if_pos rfl), holds⟩
        · exact ⟨place, (desks name).trans ((if_neg same).trans here), holds⟩
      | speaking | finished => trivial
  · have holds : ∀ {name p}, p ≠ owner → Holds r name p →
        Holds (r.setDesk service (some { desk with line := desk.line ++ [owner] })).yield name p :=
      fun apart holds => holds.imp_left fun ⟨stands, turn⟩ => ⟨stands, stays apart turn⟩
    rw [Rota.yield, desks] at here
    split at here
    · rename_i same
      cases here
      subst same
      refine ⟨attended.unknown, holds other attended.holder, ?_, ?_⟩
      · refine (List.perm_append_singleton owner desk.line).nodup_iff.mpr
          (List.nodup_cons.mpr ⟨?_, attended.once⟩)
        exact free.line name desk found
      · intro p member
        rcases List.mem_append.mp member with lined | new
        · exact attended.line p lined
        · exact List.mem_singleton.mp new ▸ waits
    · rename_i apart
      have attended := wakeful.desks name place here
      refine ⟨attended.unknown, holds ?_ attended.holder, attended.once, attended.line⟩
      rintro rfl
      rcases attended.holder with ⟨stands, -⟩ | ⟨succeeds, stands⟩
      · cases waits.symm.trans stands
        exact apart rfl
      · cases waits.symm.trans stands

/-- Who comes next at a desk that its holder leaves, and who is woken: everybody in line if the
    service is known now, and otherwise the first of them, who gets the desk. -/
structure Vacates (desk : Desk) (service : String) (succeeds : Bool) (called : List Owner)
    (next : Option Desk) : Prop where
  all : ∀ p ∈ desk.line, p ∈ called ∨ ∃ d, next = some d ∧ p ∈ d.line
  lined : ∀ p ∈ called, p ∈ desk.line
  next : ∀ d, next = some d → succeeds = false ∧ d.service = service ∧ d.holder ∈ called ∧
    d.line.Nodup ∧ ∀ p ∈ d.line, p ∈ desk.line ∧ p ∉ called

theorem wake_nobody : r.wake [] = r := by
  have same : woken [] r.ready = r.ready := by cases r.ready <;> simp [woken]
  rw [wake_eq, same]

theorem leave_desk_vacates {service : String} {desk : Desk} (succeeds : Bool)
    (found : deskOf service r.desks = some desk) (once : desk.line.Nodup) :
    ∃ called next, Vacates desk service succeeds called next ∧
      r.leaveDesk service succeeds = (r.setDesk service next).wake (called.map .errand) := by
  cases succeeds with
  | true =>
    refine ⟨desk.line, none, ⟨fun p lined => .inl lined, fun p lined => lined, nofun⟩, ?_⟩
    simp [Rota.leaveDesk, found]
  | false =>
    cases line : desk.line with
    | nil =>
      refine ⟨[], none, ⟨by simp [line], nofun, nofun⟩, ?_⟩
      simp [Rota.leaveDesk, found, line, wake_nobody]
    | cons first rest =>
      obtain ⟨out, once⟩ := List.nodup_cons.mp (line ▸ once)
      refine ⟨[first], some ⟨service, first, rest⟩, ⟨?_, by simp [line], ?_⟩, ?_⟩
      · intro p lined
        rcases List.mem_cons.mp (line ▸ lined) with rfl | behind
        · exact .inl List.mem_cons_self
        · exact .inr ⟨_, rfl, behind⟩
      · rintro d ⟨⟩
        refine ⟨rfl, rfl, List.mem_cons_self, once, fun p behind => ⟨?_, ?_⟩⟩
        · exact line ▸ List.mem_cons_of_mem first behind
        · rintro member
          exact out (List.mem_singleton.mp member ▸ behind)
      · simp [Rota.leaveDesk, found, line]

theorem vacate_wakeful {service : String} {succeeds : Bool} {desk : Desk} {called : List Owner}
    {next : Option Desk} {e : Engine σ H} (wakeful : Wakeful r) (turn : .errand owner ∈ r.ready)
    (looks : standingOf r.engine owner = some (.lookingUp service succeeds))
    (found : deskOf service r.desks = some desk) (holder : desk.holder = owner)
    (vacates : Vacates desk service succeeds called next)
    (ready : standingOf e owner = some .ready)
    (others : ∀ p, p ≠ owner → standingOf e p = standingOf r.engine p)
    (handles : ∀ name, name ≠ service ∨ succeeds = false →
      handleFor name e.scene.accessor.handles = handleFor name r.engine.scene.accessor.handles) :
    Wakeful (({ r with engine := e }.setDesk service next).wake (called.map .errand)) := by
  have attended := wakeful.desks service desk found
  have desks := desk_of_set { r with engine := e } service next
    fun d same => (vacates.next d same).2.1
  obtain ⟨lasting, members⟩ := woken_lasting (called.map .errand) wakeful.order
  have stays : ∀ {u}, u ∈ r.ready → u ∈ woken (called.map .errand) r.ready :=
    fun here => (members _).mpr (.inl here)
  have turns : ∀ {p}, .errand p ∈ woken (called.map .errand) r.ready ↔
      .errand p ∈ r.ready ∨ p ∈ called := by
    intro p
    simp [members]
  have free := wakeful.parked owner turn
  have kept : ∀ {p standing}, p ≠ owner → standingOf r.engine p = some standing →
      standingOf e p = some standing := fun other stands => (others _ other).trans stands
  have waits : ∀ p ∈ desk.line, p ≠ owner ∧ standingOf r.engine p = some (.waiting service) := by
    intro p lined
    exact ⟨fun same => free.line service desk found (same ▸ lined), attended.line p lined⟩
  rw [wake_eq]
  refine ⟨lasting, fun p turn => ?_, fun p standing stands => ?_, fun name place here => ?_,
    fun p expects => ?_, fun p text stalls => ?_⟩
  · rcases turns.mp turn with had | new
    · have apart := wakeful.parked p had
      refine ⟨fun name place here lined => ?_, apart.answer, apart.gate⟩
      rw [desks] at here
      split at here
      · exact apart.line service desk found ((vacates.next place here).2.2.2.2 p lined).1
      · exact apart.line name place here lined
    · obtain ⟨-, stands⟩ := waits p (vacates.lined p new)
      refine ⟨fun name place here lined => ?_, fun expects => ?_, fun text stalls => ?_⟩
      · rw [desks] at here
        split at here
        · exact ((vacates.next place here).2.2.2.2 p lined).2 new
        · rename_i apart
          cases stands.symm.trans ((wakeful.desks name place here).line p lined)
          exact apart rfl
      · obtain ⟨name, found, looks⟩ := wakeful.expecting p expects
        cases stands.symm.trans looks
      · obtain ⟨said, speaks⟩ := wakeful.stalled p text stalls
        cases stands.symm.trans speaks
  · by_cases own : p = owner
    · subst own
      cases ready.symm.trans stands
      exact stays turn
    · have placed := wakeful.placed p standing ((others p own).symm.trans stands)
      cases standing with
      | ready => exact stays placed
      | waiting name =>
        rcases placed with turn | ⟨place, here, lined⟩
        · exact .inl (stays turn)
        · by_cases same : name = service
          · subst same
            cases found.symm.trans here
            rcases vacates.all p lined with new | ⟨d, passed, lined⟩
            · exact .inl (turns.mpr (.inr new))
            · exact .inr ⟨d, ((desks name).trans (if_pos rfl)).trans passed, lined⟩
          · exact .inr ⟨place, (desks name).trans ((if_neg same).trans here), lined⟩
      | lookingUp name succeeds =>
        obtain ⟨turn, place, here, holds⟩ := placed
        refine ⟨turn.imp_left stays, place, (desks name).trans ((if_neg ?_).trans here), holds⟩
        rintro rfl
        cases found.symm.trans here
        exact own (holds.symm.trans holder)
      | speaking | finished => trivial
  · rw [desks] at here
    split at here
    · rename_i same
      subst same
      obtain ⟨vain, -, first, once, line⟩ := vacates.next place here
      refine ⟨(handles name (.inr vain)).trans attended.unknown, .inl ⟨?_, turns.mpr (.inr first)⟩,
        once, fun p lined => ?_⟩
      · obtain ⟨other, stands⟩ := waits _ (vacates.lined _ first)
        exact kept other stands
      · obtain ⟨other, stands⟩ := waits p (line p lined).1
        exact kept other stands
    · rename_i apart
      have attended := wakeful.desks name place here
      have other : place.holder ≠ owner := by
        intro same
        rcases attended.holder with ⟨stands, -⟩ | ⟨found, stands⟩
        · cases looks.symm.trans (same ▸ stands)
        · cases looks.symm.trans (same ▸ stands)
          exact apart rfl
      refine ⟨(handles name (.inl apart)).trans attended.unknown, ?_, attended.once,
        fun p lined => ?_⟩
      · exact attended.holder.imp (fun ⟨stands, turn⟩ => ⟨kept other stands, stays turn⟩)
          fun ⟨found, stands⟩ => ⟨found, kept other stands⟩
      · exact kept (fun same => free.line name place here (same ▸ lined)) (attended.line p lined)
  · obtain ⟨name, found, stands⟩ := wakeful.expecting p expects
    exact ⟨name, found, kept (fun same => free.answer (same ▸ expects)) stands⟩
  · obtain ⟨said, speaks⟩ := wakeful.stalled p text stalls
    exact ⟨said, kept (fun same => free.gate text (same ▸ stalls)) speaks⟩

end Waking

end CommandGateway.Engine
