import UsgRadius.Server.Accounting

namespace UsgRadius.Server

open Data Program

/-! Concurrent calls of the accounting handler, one map operation at a time. -/

/-- The sessions, and how often each session id was recorded and was ended. -/
structure Ledger where
  sessions : Sessions
  starts : String → Nat
  ends : String → Nat

namespace Ledger

def new : Ledger := ⟨∅, fun _ => 0, fun _ => 0⟩

end Ledger

namespace SessionStep

def records? : {Answer : Type} → SessionStep Answer → Option String
  | _, .insert sessionId _ => some sessionId
  | _, _ => none

def checks : {Answer : Type} → SessionStep Answer → Bool
  | _, .contains _ => true
  | _, _ => false

end SessionStep

namespace Ledger

/-- A session ends when its id is no longer in the map. -/
def perform (now : Nat) (Answer : Type) (effect : SessionStep Answer) (ledger : Ledger) : Answer × Ledger :=
  let outcome := SessionStep.perform now Answer effect ledger.sessions
  (outcome.1,
    { sessions := outcome.2
      starts := fun sessionId => ledger.starts sessionId + if effect.records? = some sessionId then 1 else 0
      ends := fun sessionId =>
        ledger.ends sessionId + if sessionId ∈ ledger.sessions ∧ sessionId ∉ outcome.2 then 1 else 0 })

/-- The clock may show anything. -/
def Performs : Semantics SessionStep Ledger := fun Answer effect ledger answer after =>
  ∃ now, perform now Answer effect ledger = (answer, after)

end Ledger

def AccountingCall.rivals : AccountingCall → AccountingCall → Bool
  | .handleStart sessionId username _ _, .handleStart otherId otherName _ _ =>
    sessionId = otherId || username = otherName
  | _, _ => false

namespace SimpleAccountingHandler

/-- Any calls beside each other. -/
def accountingTasks (handler : SimpleAccountingHandler) : System SessionStep AccountingError AccountingCall Ledger where
  start call := do
    let _ ← handler.handle call
    return ()
  mayStart _ _ := true
  step := Ledger.Performs

/-- The call has found its session id free and has not recorded the session yet. -/
def admitting : Program SessionStep AccountingError Unit → Bool
  | .perform .now next => admitting (next (0 : Nat))
  | .perform (.countUser _) _ => true
  | .perform (.insert _ _) _ => true
  | _ => false

/-- A Start looks for its session only while no rival is about to record one. -/
def exclusive : Guard SessionStep AccountingError AccountingCall Ledger := fun pool call _ effect =>
  !effect.checks || pool.threads.all fun thread => !(thread.task.rivals call && admitting thread.program)

/-- A Start before it looks for its session, after it found none, after it found
room for it, and after it can only report; or another call. -/
inductive Place where
  | arriving (sessionId username : String)
  | unseen (sessionId username : String)
  | admitted (sessionId username : String)
  | leaving
  | elsewhere

namespace Place

def permits : Place → (Answer : Type) → SessionStep Answer → Prop
  | .arriving _ _, _, .now => True
  | .arriving _ _, _, .retain _ => True
  | .arriving sessionId _, _, .contains key => key = sessionId
  | .unseen _ username, _, .countUser name => name = username
  | .admitted _ _, _, .now => True
  | .admitted sessionId username, _, .insert key session => key = sessionId ∧ session.username = username
  | .leaving, _, .countUser _ => True
  | .elsewhere, _, .retain _ => True
  | .elsewhere, _, .remove _ => True
  | .elsewhere, _, .update _ change => ∀ now session, (change now session).username = session.username
  | _, _, _ => False

def advance (limit : Nat) : Place → (Answer : Type) → SessionStep Answer → Answer → Place
  | .arriving sessionId username, _, .contains _, found =>
    if found then .leaving else if limit = 0 then .admitted sessionId username else .unseen sessionId username
  | .unseen sessionId username, _, .countUser _, current =>
    if current < limit then .admitted sessionId username else .leaving
  | .admitted _ _, _, .insert _ _, _ => .leaving
  | place, _, _, _ => place

def start? : Place → Option (String × String)
  | .arriving sessionId username => some (sessionId, username)
  | .unseen sessionId username => some (sessionId, username)
  | .admitted sessionId username => some (sessionId, username)
  | _ => none

def pending? : Place → Option (String × String)
  | .unseen sessionId username => some (sessionId, username)
  | .admitted sessionId username => some (sessionId, username)
  | _ => none

def Knows (limit : Nat) (sessions : Sessions) : Place → Prop
  | .unseen sessionId _ => sessionId ∉ sessions
  | .admitted sessionId username => sessionId ∉ sessions ∧ (limit ≠ 0 → userSessions username sessions < limit)
  | _ => True

section Stages

variable {limit : Nat} {place : Place} {Answer : Type} {effect : SessionStep Answer} {answer : Answer}
  {start : String × String}

theorem start?_advance (keeps : (place.advance limit Answer effect answer).start? = some start) :
    place.start? = some start := by
  unfold advance at keeps
  split at keeps <;> grind [start?]

theorem start?_of_pending (pending : place.pending? = some start) : place.start? = some start := by
  cases place <;> first | exact pending | cases pending

theorem pending?_advance (pending : (place.advance limit Answer effect answer).pending? = some start) :
    place.pending? = some start ∨ effect.checks = true := by
  unfold advance at pending
  split at pending <;> grind [pending?, SessionStep.checks]

end Stages

end Place

def conduct (limit : Nat) : Protocol SessionStep Place where
  permits := Place.permits
  advance := Place.advance limit
  rests place := place.pending? = none

end SimpleAccountingHandler

def AccountingCall.begins : AccountingCall → SimpleAccountingHandler.Place
  | .handleStart sessionId username _ _ => .arriving sessionId username
  | _ => .elsewhere

namespace SimpleAccountingHandler

variable {start : String × String}

section

variable (handler : SimpleAccountingHandler)

include handler

theorem cleanupStaleSessions_follows (sessionId username : String) :
    (conduct handler.maxSessionsPerUser).Follows (fun place _ => place = .arriving sessionId username)
      (.arriving sessionId username) handler.cleanupStaleSessions := by
  unfold cleanupStaleSessions
  split
  · exact rfl
  · exact .ask trivial fun _ => ⟨trivial, fun _ => rfl⟩

theorem canStartSession_follows (sessionId username : String) :
    (conduct handler.maxSessionsPerUser).Follows
      (fun place outcome => outcome = .ok true ∧ place = .admitted sessionId username ∨
        outcome = .ok false ∧ place = .leaving)
      (if handler.maxSessionsPerUser = 0 then .admitted sessionId username else .unseen sessionId username)
      (handler.canStartSession username) := by
  unfold canStartSession
  split
  · exact .inl ⟨rfl, rfl⟩
  · refine .ask rfl fun current => ?_
    by_cases room : current < handler.maxSessionsPerUser
    · simp only [conduct, Place.advance, room, if_true, decide_true]
      exact .inl ⟨rfl, rfl⟩
    · simp only [conduct, Place.advance, room, if_false, decide_false]
      exact .inr ⟨rfl, rfl⟩

theorem handleStart_follows (sessionId username : String) (nasIp : IpAddr) :
    (conduct handler.maxSessionsPerUser).Follows (fun place _ => place.pending? = none)
      (.arriving sessionId username) (handler.handleStart sessionId username nasIp) := by
  refine .stay (cleanupStaleSessions_follows handler sessionId username) (fun _ => rfl) fun _ => ?_
  refine .ask rfl fun found => ?_
  cases found with
  | true => exact rfl
  | false =>
    refine .bind ((canStartSession_follows handler sessionId username).mono ?_)
    intro place outcome asked
    rcases asked with ⟨rfl, rfl⟩ | ⟨rfl, rfl⟩
    · exact .ask trivial fun _ => .ask trivial fun _ => .ask ⟨rfl, rfl⟩ fun _ => rfl
    · exact .ask trivial fun _ => rfl

theorem handle_follows (call : AccountingCall) :
    (conduct handler.maxSessionsPerUser).Follows (fun place _ => place.pending? = none) call.begins
      (handler.handle call) := by
  cases call with
  | handleStart sessionId username nasIp packet => exact handleStart_follows handler sessionId username nasIp
  | handleStop sessionId username nasIp packet =>
    refine .ask trivial fun removed => ?_
    cases removed <;> exact rfl
  | handleInterimUpdate sessionId username nasIp packet =>
    refine .ask (fun _ _ => rfl) fun present => ?_
    cases present <;> exact rfl
  | handleAccountingOn nasIp packet => exact rfl
  | handleAccountingOff nasIp packet => exact .ask trivial fun _ => rfl

end

theorem admitting_of_pending {limit : Nat} {place : Place} {program : Program SessionStep AccountingError Unit}
    (conforms : (conduct limit).Conforms place program) (pending : place.pending? = some start) :
    admitting program = true := by
  induction program generalizing place with
  | done outcome =>
    rw [show place.pending? = none from conforms] at pending
    cases pending
  | perform effect next ih =>
    obtain ⟨permits, follows⟩ := conforms
    simp only [conduct, Place.permits] at permits
    split at permits
    case h_5 => exact ih (0 : Nat) (follows (0 : Nat)) pending
    all_goals first | rfl | cases pending | cases permits

/-! ## What an operation does to the sessions -/

/-- No session id is new, and no user has more sessions. -/
structure Narrows (before after : Sessions) : Prop where
  ids : ∀ sessionId, sessionId ∈ after → sessionId ∈ before
  users : ∀ username, userSessions username after ≤ userSessions username before

section Operations

variable {limit : Nat} {before after : Sessions} {place : Place} {Answer : Type} {effect : SessionStep Answer}
  {sessionId : String} {session : Session}

theorem narrows_refl (sessions : Sessions) : Narrows sessions sessions :=
  ⟨fun _ present => present, fun _ => le_rfl⟩

theorem narrows_retain (keep : Session → Bool) (sessions : Sessions) : Narrows sessions (Maps.retain keep sessions) := by
  refine ⟨fun sessionId kept => ?_, fun username => ?_⟩
  · rw [← AList.lookup_isSome, Maps.lookup_retain] at kept
    exact AList.lookup_isSome.mp (Option.isSome_of_isSome_filter _ _ kept)
  · exact List.filter_sublist.countP_le

theorem narrows_erase (sessionId : String) (sessions : Sessions) : Narrows sessions (sessions.erase sessionId) :=
  ⟨fun _ kept => (AList.mem_erase.mp kept).2, fun _ => (List.kerase_sublist _ _).countP_le⟩

theorem narrows_update {changed : Session} (found : before.lookup sessionId = some session)
    (same : changed.username = session.username) : Narrows before (before.insert sessionId changed) := by
  refine ⟨fun other kept => ?_, fun username => ?_⟩
  · grind
  · rw [userSessions, userSessions, Maps.countValues_insert, Maps.countValues_erase _ found, same]

theorem perform_narrows (now : Nat) (permits : place.permits Answer effect) (silent : effect.records? = none) :
    Narrows before (SessionStep.perform now Answer effect before).2 := by
  cases effect with
  | now => exact narrows_refl before
  | retain keep => exact narrows_retain keep before
  | contains key | countUser username => exact narrows_refl before
  | insert key session => cases silent
  | remove key => exact narrows_erase key before
  | update key change =>
    have same : ∀ now session, (change now session).username = session.username := by
      cases place <;> first | exact permits | cases permits
    simp only [SessionStep.perform]
    split
    · exact narrows_refl before
    · rename_i session found
      exact narrows_update found (same now session)

theorem Narrows.knows (narrows : Narrows before after) (knows : place.Knows limit before) : place.Knows limit after := by
  cases place with
  | unseen sessionId username => exact fun present => knows (narrows.ids sessionId present)
  | admitted sessionId username =>
    exact ⟨fun present => knows.1 (narrows.ids sessionId present),
      fun limited => (narrows.users username).trans_lt (knows.2 limited)⟩
  | _ => exact trivial

theorem userSessions_insert (absent : sessionId ∉ before) (username : String) :
    userSessions username (before.insert sessionId session) =
      userSessions username before + if session.username = username then 1 else 0 := by
  rw [userSessions, userSessions, Maps.countValues_insert, Maps.erase_of_notMem absent]
  simp only [decide_eq_true_eq]

theorem unseen_insert {other : String} (absent : other ∉ before) (differs : sessionId ≠ other) :
    other ∉ before.insert sessionId session := by
  grind

end Operations

def Distinct (one other : AccountingCall × Place) : Prop :=
  ∀ start, one.2.pending? = some start → ∀ rival, other.2.pending? = some rival →
    start.1 ≠ rival.1 ∧ start.2 ≠ rival.2

theorem Distinct.symm {one other : AccountingCall × Place} (apart : Distinct one other) : Distinct other one := by
  intro start pending rival held
  obtain ⟨ids, users⟩ := apart rival held start pending
  exact ⟨ids.symm, users.symm⟩

def Own (label : AccountingCall × Place) : Prop :=
  ∀ start, label.2.start? = some start → ∃ nasIp packet, label.1 = .handleStart start.1 start.2 nasIp packet

/-- No user has more sessions than the limit, and no session was recorded twice
without an end in between. -/
structure Limited (handler : SimpleAccountingHandler) (ledger : Ledger) : Prop where
  users : handler.maxSessionsPerUser ≠ 0 →
    ∀ username, userSessions username ledger.sessions ≤ handler.maxSessionsPerUser
  sessions : ∀ sessionId, ledger.starts sessionId ≤ ledger.ends sessionId + 1

structure Orderly (limit : Nat) (ledger : Ledger) : Prop where
  users : limit ≠ 0 → ∀ username, userSessions username ledger.sessions ≤ limit
  sessions : ∀ sessionId,
    ledger.starts sessionId = ledger.ends sessionId + if sessionId ∈ ledger.sessions then 1 else 0

def Informed (limit : Nat) (ledger : Ledger) (label : AccountingCall × Place) : Prop :=
  Own label ∧ label.2.Knows limit ledger.sessions

section Invariant

variable {limit now : Nat} {ledger : Ledger} {call : AccountingCall} {place : Place} {Answer : Type}
  {effect : SessionStep Answer} {label : AccountingCall × Place}
  {threads : List (Thread SessionStep AccountingError AccountingCall)}

theorem exclusive_apart {rival : String × String} {thread : Thread SessionStep AccountingError AccountingCall}
    (present : thread ∈ threads) (task : label.1 = thread.task) (conforms : (conduct limit).Conforms label.2 thread.program)
    (own : Own (call, place)) (other : Own label) (allowed : exclusive ⟨ledger, threads⟩ call Answer effect = true)
    (checks : effect.checks = true) (starts : place.start? = some start) (pending : label.2.pending? = some rival) :
    start.1 ≠ rival.1 ∧ start.2 ≠ rival.2 := by
  obtain ⟨_, _, rfl⟩ := own start starts
  obtain ⟨_, _, rivalCall⟩ := other rival (Place.start?_of_pending pending)
  simp only [exclusive, checks, Bool.not_true, Bool.false_or, List.all_eq_true] at allowed
  have others := allowed thread present
  rw [admitting_of_pending conforms pending, ← task, rivalCall] at others
  simp only [AccountingCall.rivals, Bool.and_true, Bool.not_eq_true', Bool.or_eq_false_iff, decide_eq_false_iff_not]
    at others
  exact ⟨Ne.symm others.1, Ne.symm others.2⟩

theorem knows_advance (permits : place.permits Answer effect) (knows : place.Knows limit ledger.sessions)
    (silent : effect.records? = none) :
    (place.advance limit Answer effect (SessionStep.perform now Answer effect ledger.sessions).1).Knows limit
      (SessionStep.perform now Answer effect ledger.sessions).2 := by
  unfold Place.permits at permits
  split at permits
  case h_3 =>
    simp only [SessionStep.perform, Place.advance]
    grind [Place.Knows]
  case h_4 sessionId username name =>
    subst permits
    show Place.Knows limit ledger.sessions
      (if userSessions name ledger.sessions < limit then .admitted sessionId name else .leaving)
    split
    next room => exact ⟨knows, fun _ => room⟩
    next => exact trivial
  all_goals first | exact trivial | exact knows | cases silent | cases permits

theorem Orderly.narrowed (orderly : Orderly limit ledger) (silent : effect.records? = none)
    (narrows : Narrows ledger.sessions (SessionStep.perform now Answer effect ledger.sessions).2) :
    Orderly limit (ledger.perform now Answer effect).2 := by
  refine ⟨fun limited username => (narrows.users username).trans (orderly.users limited username), fun sessionId => ?_⟩
  have counted := orderly.sessions sessionId
  have kept := narrows.ids sessionId
  simp only [Ledger.perform, silent]
  grind

theorem Orderly.recorded {sessionId username : String} {session : Session} (named : session.username = username)
    (orderly : Orderly limit ledger) (knows : (Place.admitted sessionId username).Knows limit ledger.sessions) :
    Orderly limit (ledger.perform now Unit (.insert sessionId session)).2 := by
  obtain ⟨absent, room⟩ := knows
  refine ⟨fun limited name => ?_, fun other => ?_⟩
  · simp only [Ledger.perform, SessionStep.perform]
    rw [userSessions_insert absent, named]
    split
    · rename_i same
      exact same ▸ room limited
    · exact orderly.users limited name
  · have counted := orderly.sessions other
    simp only [Ledger.perform, SessionStep.perform, SessionStep.records?, AList.mem_insert]
    grind

/-- A recorded session is neither the session nor of the user that another Start
is about to record. -/
theorem knows_recorded {sessionId username : String} {session : Session} (named : session.username = username)
    (absent : sessionId ∉ ledger.sessions) (knows : label.2.Knows limit ledger.sessions)
    (apart : Distinct (call, .admitted sessionId username) label) :
    label.2.Knows limit (ledger.sessions.insert sessionId session) := by
  have apart := apart (sessionId, username) rfl
  obtain ⟨_, place⟩ := label
  cases place with
  | unseen otherId otherName => exact unseen_insert knows (apart (otherId, otherName) rfl).1
  | admitted otherId otherName =>
    have differs := apart (otherId, otherName) rfl
    refine ⟨unseen_insert knows.1 differs.1, fun limited => ?_⟩
    rw [userSessions_insert absent, named, if_neg differs.2]
    exact knows.2 limited
  | _ => exact trivial

theorem orderly_stable (handler : SimpleAccountingHandler) :
    Stable handler.accountingTasks exclusive (conduct handler.maxSessionsPerUser) AccountingCall.begins
      (Shared (Orderly handler.maxSessionsPerUser) (Informed handler.maxSessionsPerUser) Distinct) := by
  apply Shared.stable
  · exact Distinct.symm
  · intro call
    refine .bind ((handle_follows handler call).mono fun place outcome ended => ?_)
    cases outcome <;> exact ended
  · intro ledger labels call _ _
    cases call with
    | handleStart sessionId username nasIp packet =>
      refine ⟨⟨fun start starts => ?_, trivial⟩, fun _ _ => nofun⟩
      cases starts
      exact ⟨nasIp, packet, rfl⟩
    | _ => exact ⟨⟨nofun, trivial⟩, fun _ _ => nofun⟩
  · intro ledger threads left call place right Answer effect answer after labelled orderly informed others permits
      allowed performed
    obtain ⟨now, performed⟩ := performed
    obtain ⟨rfl, rfl⟩ := Prod.mk.inj performed.symm
    have own : Own (call, place.advance handler.maxSessionsPerUser Answer effect (ledger.perform now Answer effect).1) :=
      fun start starts => informed.1 start (Place.start?_advance starts)
    have apart (label) (member : label ∈ left ++ right) : Distinct
        (call, place.advance handler.maxSessionsPerUser Answer effect (ledger.perform now Answer effect).1) label := by
      intro start pending rival held
      rcases Place.pending?_advance pending with already | checks
      · exact (others label member).2 start already rival held
      · obtain ⟨thread, present, task, conforms⟩ := Labels.thread labelled (mem_beside member)
        exact exclusive_apart present task conforms informed.1 (others label member).1.1 allowed checks
          (Place.start?_advance (Place.start?_of_pending pending)) held
    by_cases silent : effect.records? = none
    · have narrows : Narrows ledger.sessions (ledger.perform now Answer effect).2.sessions :=
        perform_narrows now permits silent
      exact ⟨orderly.narrowed silent narrows, ⟨own, knows_advance permits informed.2 silent⟩, fun label member =>
        ⟨⟨(others label member).1.1, narrows.knows (others label member).1.2⟩, apart label member⟩⟩
    · cases effect with
      | insert key session =>
        cases place with
        | admitted sessionId username =>
          obtain ⟨rfl, named⟩ := permits
          exact ⟨orderly.recorded named informed.2, ⟨own, trivial⟩, fun label member =>
            ⟨⟨(others label member).1.1,
              knows_recorded named informed.2.1 (others label member).1.2 (others label member).2⟩, apart label member⟩⟩
        | _ => cases permits
      | _ => exact absurd rfl silent

end Invariant

theorem exclusive_limited (handler : SimpleAccountingHandler)
    {pool : Pool SessionStep AccountingError AccountingCall Ledger}
    (run : handler.accountingTasks.Reaches exclusive ⟨.new, []⟩ pool) : handler.Limited pool.world := by
  have initially : Holds (conduct handler.maxSessionsPerUser)
      (Shared (Orderly handler.maxSessionsPerUser) (Informed handler.maxSessionsPerUser) Distinct)
      (⟨.new, []⟩ : Pool SessionStep AccountingError AccountingCall Ledger) :=
    ⟨[], .nil, ⟨fun _ _ => Nat.zero_le _, fun _ => rfl⟩, fun _ none => absurd none List.not_mem_nil, .nil⟩
  obtain ⟨labels, _, orderly, _⟩ := (orderly_stable handler).reaches initially run
  refine ⟨orderly.users, fun sessionId => ?_⟩
  rw [orderly.sessions sessionId]
  split <;> omega

def strictHandler : SimpleAccountingHandler := ⟨3600, 1⟩

def aliceStarts (sessionId : String) : AccountingCall :=
  .handleStart sessionId "alice" (.ofOctets 192 0 2 1) (.new .accountingRequest 1 (.zero 16))

def orderlyTurns (one other : String) : List (Turn AccountingCall Nat) :=
  .start (aliceStarts one) :: List.replicate 7 (.act 0 0) ++ .start (aliceStarts other) :: List.replicate 5 (.act 0 0)

def racingTurns (one other : String) : List (Turn AccountingCall Nat) :=
  [.start (aliceStarts one), .start (aliceStarts other)] ++ List.replicate 4 (.act 0 0) ++ List.replicate 7 (.act 1 0) ++
    List.replicate 3 (.act 0 0)

theorem turns_reach {allowed : Guard SessionStep AccountingError AccountingCall Ledger}
    {turns : List (Turn AccountingCall Nat)} {finds : Ledger → Bool}
    (found : (follow strictHandler.accountingTasks allowed Ledger.perform turns ⟨.new, []⟩).any
      (fun pool => finds pool.world) = true) :
    ∃ pool, strictHandler.accountingTasks.Reaches allowed ⟨.new, []⟩ pool ∧ finds pool.world = true := by
  obtain ⟨pool, followed, facts⟩ := (Option.any_eq_true _ _).mp found
  exact ⟨pool, follow_reaches (fun now _ _ _ => ⟨now, rfl⟩) followed, facts⟩

theorem orderlyTurns_limited :
    ∃ pool, strictHandler.accountingTasks.Reaches exclusive ⟨.new, []⟩ pool ∧
      userSessions "alice" pool.world.sessions = 1 ∧ strictHandler.Limited pool.world := by
  obtain ⟨pool, run, facts⟩ := @turns_reach exclusive (orderlyTurns "1" "2")
    (fun ledger => userSessions "alice" ledger.sessions = 1) (by decide +kernel)
  exact ⟨pool, run, of_decide_eq_true facts, exclusive_limited strictHandler run⟩

/-- Two sessions of a user who may have one, and a session recorded twice. -/
theorem racingTurns_exceed :
    (∃ pool, strictHandler.accountingTasks.Reaches (fun _ _ _ _ => true) ⟨.new, []⟩ pool ∧
      userSessions "alice" pool.world.sessions = 2) ∧
    ∃ pool, strictHandler.accountingTasks.Reaches (fun _ _ _ _ => true) ⟨.new, []⟩ pool ∧
      pool.world.starts "1" = 2 ∧ pool.world.ends "1" = 0 := by
  obtain ⟨crowded, crowds, two⟩ := @turns_reach (fun _ _ _ _ => true) (racingTurns "1" "2")
    (fun ledger => userSessions "alice" ledger.sessions = 2) (by decide +kernel)
  obtain ⟨repeated, repeats, twice⟩ := @turns_reach (fun _ _ _ _ => true) (racingTurns "1" "1")
    (fun ledger => ledger.starts "1" = 2 ∧ ledger.ends "1" = 0) (by decide +kernel)
  exact ⟨⟨crowded, crowds, of_decide_eq_true two⟩, repeated, repeats, of_decide_eq_true twice⟩

end SimpleAccountingHandler

end UsgRadius.Server
