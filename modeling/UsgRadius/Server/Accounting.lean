import UsgRadius.Server.Unauthenticated

namespace UsgRadius.Server

open Data Program

/-! The in-memory accounting handler: sessions by Acct-Session-Id, in a map of
which every operation is atomic. -/

structure Session where
  sessionId : String
  username : String
  nasIp : IpAddr
  framedIp : Option IpAddr
  /-- Times are seconds since the Unix epoch. -/
  startTime : Nat
  lastUpdate : Nat
  inputOctets : UInt64
  outputOctets : UInt64
  inputPackets : UInt64
  outputPackets : UInt64
  sessionTime : UInt32
  terminateCause : Option UInt32
deriving DecidableEq

namespace Session

def started (sessionId username : String) (nasIp : IpAddr) (startTime lastUpdate : Nat) : Session where
  sessionId
  username
  nasIp
  framedIp := none
  startTime
  lastUpdate
  inputOctets := 0
  outputOctets := 0
  inputPackets := 0
  outputPackets := 0
  sessionTime := 0
  terminateCause := none

def leadingU32 (packet : Packet) (attrType : AttributeType) : Option UInt32 :=
  match packet.findAttribute attrType.asU8 with
  | none => none
  | some attr => if 4 ≤ attr.value.length then some (UInt32.ofNat (fromBe (attr.value.take 4))) else none

/-- A count of octets in two attributes, the upper half of which may be missing. -/
def octetCount (packet : Packet) (low high : AttributeType) (present : UInt64) : UInt64 :=
  match leadingU32 packet low with
  | none => present
  | some lower => (((leadingU32 packet high).getD 0).toUInt64 <<< 32) ||| lower.toUInt64

def updated (session : Session) (now : Nat) (packet : Packet) : Session :=
  { session with
    lastUpdate := now
    sessionTime := (leadingU32 packet .acctSessionTime).getD session.sessionTime
    inputOctets := octetCount packet .acctInputOctets .acctInputGigawords session.inputOctets
    outputOctets := octetCount packet .acctOutputOctets .acctOutputGigawords session.outputOctets }

end Session

abbrev Sessions := AList fun _ : String => Session

inductive SessionStep : Type → Type
  | now : SessionStep Nat
  | retain (keep : Session → Bool) : SessionStep Unit
  | contains (sessionId : String) : SessionStep Bool
  | countUser (username : String) : SessionStep Nat
  | insert (sessionId : String) (session : Session) : SessionStep Unit
  | remove (sessionId : String) : SessionStep (Option Session)
  /-- A change under the lock of the entry, given the time; `false` where there is no entry. -/
  | update (sessionId : String) (change : Nat → Session → Session) : SessionStep Bool

namespace SessionStep

/-- The outcome of an operation at a time. -/
def perform (now : Nat) : (Answer : Type) → SessionStep Answer → Sessions → Answer × Sessions
  | _, .now, sessions => (now, sessions)
  | _, .retain keep, sessions => ((), Maps.retain keep sessions)
  | _, .contains sessionId, sessions => (sessionId ∈ sessions, sessions)
  | _, .countUser username, sessions => (Maps.countValues (·.username = username) sessions, sessions)
  | _, .insert sessionId session, sessions => ((), sessions.insert sessionId session)
  | _, .remove sessionId, sessions => (sessions.lookup sessionId, sessions.erase sessionId)
  | _, .update sessionId change, sessions =>
    match sessions.lookup sessionId with
    | none => (false, sessions)
    | some session => (true, sessions.insert sessionId (change now session))

end SessionStep

structure SimpleAccountingHandler where
  /-- In seconds; zero for no timeout. -/
  sessionTimeout : Nat
  /-- Zero for no limit. -/
  maxSessionsPerUser : Nat
deriving DecidableEq

namespace SimpleAccountingHandler

abbrev Action := Program SessionStep AccountingError

def new : SimpleAccountingHandler where
  sessionTimeout := 3600
  maxSessionsPerUser := 0

variable (handler : SimpleAccountingHandler)

/-- Not updated for longer than the timeout. -/
def isStale (now : Nat) (session : Session) : Bool :=
  handler.sessionTimeout < now - session.lastUpdate

def cleanupStaleSessions : Action Unit :=
  if handler.sessionTimeout = 0 then
    return ()
  else do
    let now ← ask .now
    ask (.retain fun session => !handler.isStale now session)

def canStartSession (username : String) : Action Bool :=
  if handler.maxSessionsPerUser = 0 then
    return true
  else do
    let current ← ask (.countUser username)
    return decide (current < handler.maxSessionsPerUser)

def handleStart (sessionId username : String) (nasIp : IpAddr) : Action AccountingResult := do
  handler.cleanupStaleSessions
  if ← ask (.contains sessionId) then
    fail (.duplicateSession sessionId)
  else if !(← handler.canStartSession username) then do
    let current ← ask (.countUser username)
    fail (.sessionLimitExceeded username current handler.maxSessionsPerUser)
  else do
    let startTime ← ask .now
    let lastUpdate ← ask .now
    ask (.insert sessionId (.started sessionId username nasIp startTime lastUpdate))
    return .success

/-- What a Stop says of its session is dropped with the session. -/
def handleStop (sessionId : String) : Action AccountingResult := do
  match ← ask (.remove sessionId) with
  | none => fail (.sessionNotFound sessionId)
  | some _ => return .success

def handleInterimUpdate (sessionId : String) (packet : Packet) : Action AccountingResult := do
  if ← ask (.update sessionId fun now session => session.updated now packet) then
    return .success
  else
    fail (.sessionNotFound sessionId)

def handleAccountingOn : Action AccountingResult :=
  return .success

def handleAccountingOff (nasIp : IpAddr) : Action AccountingResult := do
  ask (.retain fun session => session.nasIp ≠ nasIp)
  return .success

def handle : AccountingCall → Action AccountingResult
  | .handleStart sessionId username nasIp _ => handler.handleStart sessionId username nasIp
  | .handleStop sessionId _ _ _ => handleStop sessionId
  | .handleInterimUpdate sessionId _ _ packet => handleInterimUpdate sessionId packet
  | .handleAccountingOn _ _ => handleAccountingOn
  | .handleAccountingOff nasIp _ => handleAccountingOff nasIp

/-- The result of a call at a time, and the sessions after it. -/
def record (now : Nat) (call : AccountingCall) (sessions : Sessions) :
    Except AccountingError AccountingResult × Sessions :=
  (handler.handle call).eval (SessionStep.perform now) sessions

def cleaned (now : Nat) (sessions : Sessions) : Sessions :=
  if handler.sessionTimeout = 0 then sessions else Maps.retain (fun session => !handler.isStale now session) sessions

variable {handler} {now : Nat} {sessions : Sessions} {sessionId username : String} {nasIp : IpAddr} {packet : Packet}

theorem cleanupStaleSessions_eval :
    handler.cleanupStaleSessions.eval (SessionStep.perform now) sessions = (.ok (), handler.cleaned now sessions) := by
  unfold cleanupStaleSessions cleaned
  split <;> rfl

/-- The number of sessions a user has. -/
def userSessions (username : String) (sessions : Sessions) : Nat :=
  Maps.countValues (·.username = username) sessions

theorem canStartSession_eval :
    (handler.canStartSession username).eval (SessionStep.perform now) sessions =
      (.ok (decide (handler.maxSessionsPerUser = 0 ∨ userSessions username sessions < handler.maxSessionsPerUser)),
        sessions) := by
  unfold canStartSession
  split
  · rename_i unlimited
    simp [unlimited]
  · rename_i limited
    simp only [limited, false_or]
    rfl

theorem record_start :
    handler.record now (.handleStart sessionId username nasIp packet) sessions =
      if sessionId ∈ handler.cleaned now sessions then
        (.error (.duplicateSession sessionId), handler.cleaned now sessions)
      else if handler.maxSessionsPerUser = 0 ∨
          userSessions username (handler.cleaned now sessions) < handler.maxSessionsPerUser then
        (.ok .success,
          (handler.cleaned now sessions).insert sessionId (.started sessionId username nasIp now now))
      else
        (.error (.sessionLimitExceeded username (userSessions username (handler.cleaned now sessions))
            handler.maxSessionsPerUser),
          handler.cleaned now sessions) := by
  simp only [record, handle, handleStart, eval_bind, cleanupStaleSessions_eval, ask_bind, eval_perform,
    SessionStep.perform, decide_eq_true_eq]
  split
  · rfl
  · simp only [eval_bind, canStartSession_eval, Bool.not_eq_true', decide_eq_false_iff_not]
    by_cases room : handler.maxSessionsPerUser = 0 ∨
        userSessions username (handler.cleaned now sessions) < handler.maxSessionsPerUser
    · rw [if_neg (not_not.mpr room), if_pos room]
      rfl
    · rw [if_pos room, if_neg room]
      rfl

theorem record_stop :
    handler.record now (.handleStop sessionId username nasIp packet) sessions =
      match sessions.lookup sessionId with
      | none => (.error (.sessionNotFound sessionId), sessions.erase sessionId)
      | some _ => (.ok .success, sessions.erase sessionId) := by
  simp only [record, handle, handleStop, ask_bind, eval_perform, SessionStep.perform]
  cases sessions.lookup sessionId <;> rfl

theorem record_interimUpdate :
    handler.record now (.handleInterimUpdate sessionId username nasIp packet) sessions =
      match sessions.lookup sessionId with
      | none => (.error (.sessionNotFound sessionId), sessions)
      | some session => (.ok .success, sessions.insert sessionId (session.updated now packet)) := by
  cases found : sessions.lookup sessionId with
  | none | some session =>
    simp only [record, handle, handleInterimUpdate, ask_bind, eval_perform, SessionStep.perform, found]
    rfl

theorem lookup_cleaned_of_current {session : Session} (found : sessions.lookup sessionId = some session)
    (current : session.lastUpdate = now) : (handler.cleaned now sessions).lookup sessionId = some session := by
  unfold cleaned
  split
  · exact found
  · rw [Maps.lookup_retain, found]
    simp [Option.filter, isStale, current]

theorem record_ok {call : AccountingCall} {result : AccountingResult}
    (recorded : (handler.record now call sessions).1 = .ok result) : result = .success := by
  cases call with
  | handleStart => grind [record_start]
  | handleStop => grind [record_stop]
  | handleInterimUpdate => grind [record_interimUpdate]
  | _ =>
    cases recorded
    rfl

/-- A call that succeeds without changing a session: the NAS has no sessions to
end, or the session already is as an update has it, to the second. -/
def Moot (now : Nat) (sessions : Sessions) : AccountingCall → Prop
  | .handleStart _ _ _ _ => False
  | .handleStop _ _ _ _ => False
  | .handleInterimUpdate sessionId _ _ packet =>
    ∃ session, sessions.lookup sessionId = some session ∧ session.updated now packet = session
  | .handleAccountingOn _ _ => True
  | .handleAccountingOff nasIp _ => ∀ sessionId session, sessions.lookup sessionId = some session → session.nasIp ≠ nasIp

theorem moot_iff {call : AccountingCall} :
    (handler.record now call sessions).1 = .ok .success ∧
      (∀ sessionId, (handler.record now call sessions).2.lookup sessionId = sessions.lookup sessionId) ↔
    Moot now sessions call := by
  cases call with
  | handleStart sessionId username nasIp packet =>
    -- After the cleanup, which would have kept a session of just now, there is none.
    have kept := @lookup_cleaned_of_current handler now sessions sessionId (.started sessionId username nasIp now now)
    refine ⟨fun same => ?_, False.elim⟩
    obtain ⟨recorded, unchanged⟩ := same
    have own := unchanged sessionId
    rw [record_start] at recorded own
    grind [Session.started]
  | handleStop sessionId username nasIp packet =>
    refine ⟨fun same => ?_, False.elim⟩
    obtain ⟨recorded, unchanged⟩ := same
    have erased := unchanged sessionId
    rw [record_stop] at recorded erased
    grind
  | handleInterimUpdate sessionId username nasIp packet =>
    rw [record_interimUpdate]
    cases found : sessions.lookup sessionId with
    | none => simp [Moot, found]
    | some session =>
      simp only [Moot, found, true_and, Option.some.injEq, exists_eq_left']
      refine ⟨fun unchanged => ?_, fun same other => by grind⟩
      have own := unchanged sessionId
      grind
  | handleAccountingOn nasIp packet => exact ⟨fun _ => trivial, fun _ => ⟨rfl, fun _ => rfl⟩⟩
  | handleAccountingOff nasIp packet =>
    have retained (sessionId : String) :
        (handler.record now (.handleAccountingOff nasIp packet) sessions).2.lookup sessionId =
          (sessions.lookup sessionId).filter (·.nasIp ≠ nasIp) := Maps.lookup_retain _ _ _
    refine ⟨fun same sessionId session found => ?_, fun none => ⟨rfl, fun sessionId => ?_⟩⟩
    · have kept := same.2 sessionId
      rw [retained, found, Option.filter_eq_some_iff] at kept
      simpa using kept.2
    · rw [retained]
      cases found : sessions.lookup sessionId with
      | none => rfl
      | some session => simp [Option.filter, none sessionId session found]

end SimpleAccountingHandler

end UsgRadius.Server
