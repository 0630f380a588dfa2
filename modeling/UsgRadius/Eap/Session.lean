import UsgRadius.Data.Maps
import UsgRadius.Data.OrderedMap
import UsgRadius.Eap.Packet
import Mathlib.Order.Nat

namespace UsgRadius.Eap

open Data

inductive EapState where
  | initial
  | identityRequested
  | identityReceived
  | methodRequested
  | challengeRequested
  | responseReceived
  | success
  | failure
  | timeout
deriving DecidableEq

def EapState.canTransitionTo : EapState → EapState → Bool
  | initial, identityRequested => true
  | identityRequested, identityReceived => true
  | identityRequested, failure => true
  | identityRequested, timeout => true
  | identityReceived, methodRequested => true
  | identityReceived, failure => true
  | methodRequested, challengeRequested => true
  | methodRequested, failure => true
  | methodRequested, timeout => true
  | challengeRequested, responseReceived => true
  | challengeRequested, failure => true
  | challengeRequested, timeout => true
  | responseReceived, success => true
  | responseReceived, failure => true
  | responseReceived, challengeRequested => true
  | _, _ => false

abbrev SessionId := String

structure EapSession where
  sessionId : SessionId
  state : EapState
  currentIdentifier : UInt8
  eapMethod : Option EapType
  identity : Option String
  createdAt : Nat
  lastActivity : Nat
  attemptCount : Nat
  lruSeq : Nat
  outstandingIdentifier : Option UInt8
  peerBinding : Octets
deriving DecidableEq

namespace EapSession

def new (sessionId : SessionId) (now : Nat) : EapSession where
  sessionId
  state := .initial
  currentIdentifier := 0
  eapMethod := none
  identity := none
  createdAt := now
  lastActivity := now
  attemptCount := 0
  lruSeq := 0
  outstandingIdentifier := none
  peerBinding := []

def updateActivity (now : Nat) (session : EapSession) : EapSession :=
  { session with lastActivity := now }

/-- The callers ignore a transition that is not allowed. -/
def transition (newState : EapState) (now : Nat) (session : EapSession) : EapSession :=
  if session.state.canTransitionTo newState then updateActivity now { session with state := newState }
  else session

def seedIdentifierAfter (responseIdentifier : UInt8) (session : EapSession) : EapSession :=
  { session with currentIdentifier := responseIdentifier + 1 }

def nextIdentifier (now : Nat) (session : EapSession) : UInt8 × EapSession :=
  (session.currentIdentifier,
    updateActivity now { session with
      currentIdentifier := session.currentIdentifier + 1
      outstandingIdentifier := some session.currentIdentifier })

/-- A session last active in the future has been idle for no time. -/
def isTimedOutAt (now timeout : Nat) (session : EapSession) : Bool :=
  decide (now - session.lastActivity > timeout)

end EapSession

inductive ResponseClaim where
  | claimed
  | unknownSession
  | bindingMismatch
  | identifierMismatch
deriving DecidableEq

inductive EvictionReason where
  | idle
  | capacity
deriving DecidableEq

structure EapSessionManager where
  sessions : AList fun _ : SessionId => EapSession
  /-- The least recently used first, by `lru_seq`. -/
  lru : OrderedMap Nat SessionId
  nextSeq : Nat
  defaultTimeout : Nat
  maxSessions : Nat

namespace EapSessionManager

def withConfig (timeout maxSessions : Nat) : EapSessionManager where
  sessions := ∅
  lru := .empty
  nextSeq := 1
  defaultTimeout := timeout
  maxSessions := max maxSessions 1

def modify (id : SessionId) (change : EapSession → EapSession) (manager : EapSessionManager) :
    EapSessionManager :=
  match manager.sessions.lookup id with
  | none => manager
  | some session => { manager with sessions := manager.sessions.insert id (change session) }

/-- The sequence number is a `u64` that wraps. -/
def touch (id : SessionId) (now : Nat) (manager : EapSessionManager) : EapSessionManager :=
  match manager.sessions.lookup id with
  | none => manager
  | some session =>
    { manager with
      lru := (manager.lru.erase session.lruSeq).insert manager.nextSeq id
      nextSeq := (manager.nextSeq + 1) % 2 ^ 64
      sessions := manager.sessions.insert id
        (EapSession.updateActivity now { session with lruSeq := manager.nextSeq }) }

def createSession (id : SessionId) (now : Nat) (manager : EapSessionManager) : EapSessionManager :=
  let lru := (manager.sessions.lookup id).elim manager.lru fun old => manager.lru.erase old.lruSeq
  touch id now { manager with lru, sessions := manager.sessions.insert id (.new id now) }

def getSession (id : SessionId) (manager : EapSessionManager) : Option EapSession :=
  manager.sessions.lookup id

/-- What is done to a session that `get_session_mut` has found. -/
def getSessionMut (id : SessionId) (now : Nat) (change : EapSession → EapSession) (manager : EapSessionManager) :
    EapSessionManager :=
  (manager.touch id now).modify id change

def claimResponse (id : SessionId) (binding : Octets) (identifier : UInt8) (manager : EapSessionManager) :
    ResponseClaim × EapSessionManager :=
  match manager.sessions.lookup id with
  | none => (.unknownSession, manager)
  | some session =>
    if session.peerBinding ≠ binding then (.bindingMismatch, manager)
    else if session.outstandingIdentifier ≠ some identifier then (.identifierMismatch, manager)
    else (.claimed, manager.modify id fun session => { session with outstandingIdentifier := none })

def removeSession (id : SessionId) (manager : EapSessionManager) : EapSessionManager :=
  match manager.sessions.lookup id with
  | none => manager
  | some session =>
    { manager with sessions := manager.sessions.erase id, lru := manager.lru.erase session.lruSeq }

def evictEntry (reason : EvictionReason) (entry : Nat × SessionId)
    (evicted : List (SessionId × EvictionReason) × EapSessionManager) :
    List (SessionId × EvictionReason) × EapSessionManager :=
  let manager := evicted.2
  let gone := if manager.sessions.lookup entry.2 = none then [] else [(entry.2, reason)]
  (evicted.1 ++ gone,
    { manager with lru := manager.lru.erase entry.1, sessions := manager.sessions.erase entry.2 })

/-- The scan stops at the first session that is not idle. -/
def staleEntries (now : Nat) (manager : EapSessionManager) : List (Nat × SessionId) :=
  manager.lru.entries.takeWhile fun entry =>
    (manager.sessions.lookup entry.2).elim true (·.isTimedOutAt now manager.defaultTimeout)

def evictIdleAt (now : Nat) (manager : EapSessionManager) :
    List (SessionId × EvictionReason) × EapSessionManager :=
  (manager.staleEntries now).foldl (fun evicted entry => evictEntry .idle entry evicted) ([], manager)

/-- The entry evicted next for want of room: the least recently used one, or
any session if the recency order is empty. -/
def nextEvicted (manager : EapSessionManager) : Option (Nat × SessionId) :=
  match manager.lru.popFirst with
  | some (entry, _) => some entry
  | none => manager.sessions.keys.head?.map fun id => (0, id)

/-- `while self.sessions.len() >= self.max_sessions { .. }`: every round takes an
entry out of the recency order or, once that is empty, out of the map. -/
def evictCapacity : (rounds : Nat) → List (SessionId × EvictionReason) × EapSessionManager →
    List (SessionId × EvictionReason) × EapSessionManager
  | 0, evicted => evicted
  | rounds + 1, evicted =>
    if evicted.2.sessions.entries.length < evicted.2.maxSessions then evicted
    else
      match evicted.2.nextEvicted with
      | none => evicted
      | some entry => evictCapacity rounds (evictEntry .capacity entry evicted)

def evictAt (now : Nat) (manager : EapSessionManager) :
    List (SessionId × EvictionReason) × EapSessionManager :=
  let evicted := manager.evictIdleAt now
  evictCapacity (evicted.2.lru.entries.length + evicted.2.sessions.entries.length) evicted

def sessionCount (manager : EapSessionManager) : Nat :=
  manager.sessions.entries.length

/-! ## What the operations leave in the map -/

section Lookups

variable {manager : EapSessionManager} {id other : SessionId} {now : Nat} {change : EapSession → EapSession}

theorem modify_lookup :
    (manager.modify id change).sessions.lookup other =
      if other = id then (manager.sessions.lookup other).map change else manager.sessions.lookup other := by
  unfold modify
  cases found : manager.sessions.lookup id with
  | none =>
    by_cases same : other = id
    · subst same
      simp [found]
    · simp [same]
  | some session =>
    grind

theorem touch_eq (manager : EapSessionManager) (id : SessionId) (now : Nat) :
    (manager.touch id now).sessions = (manager.modify id fun session =>
      EapSession.updateActivity now { session with lruSeq := manager.nextSeq }).sessions := by
  unfold touch modify
  cases manager.sessions.lookup id with
  | none | some session => rfl

theorem getSessionMut_lookup :
    (manager.getSessionMut id now change).sessions.lookup other =
      if other = id then (manager.sessions.lookup other).map fun session =>
        change (EapSession.updateActivity now { session with lruSeq := manager.nextSeq })
      else manager.sessions.lookup other := by
  unfold getSessionMut
  rw [modify_lookup, touch_eq, modify_lookup]
  split
  · rw [Option.map_map]
    rfl
  · rfl

theorem createSession_lookup :
    (manager.createSession id now).sessions.lookup other =
      if other = id then some (EapSession.updateActivity now { EapSession.new id now with lruSeq := manager.nextSeq })
      else manager.sessions.lookup other := by
  unfold createSession
  rw [touch_eq, modify_lookup]
  split
  · rename_i same
    subst same
    rw [AList.lookup_insert]
    rfl
  · rename_i different
    exact AList.lookup_insert_ne different

theorem modify_limit (manager : EapSessionManager) (id : SessionId) (change : EapSession → EapSession) :
    (manager.modify id change).maxSessions = manager.maxSessions := by
  unfold modify
  split <;> rfl

theorem touch_limit (manager : EapSessionManager) (id : SessionId) (now : Nat) :
    (manager.touch id now).maxSessions = manager.maxSessions := by
  unfold touch
  split <;> rfl

end Lookups

/-- Nothing is left that was not there before. -/
def Shrinks (after before : EapSessionManager) : Prop :=
  ∀ id session, after.sessions.lookup id = some session → before.sessions.lookup id = some session

section Shrinking

variable {manager : EapSessionManager} {evicted : List (SessionId × EvictionReason) × EapSessionManager}
  {Good : List (SessionId × EvictionReason) × EapSessionManager → Prop}

theorem lookup_of_erase {sessions : AList fun _ : SessionId => EapSession} {id other : SessionId} {session : EapSession}
    (found : (sessions.erase other).lookup id = some session) : sessions.lookup id = some session := by
  grind

theorem removeSession_shrinks (manager : EapSessionManager) (id : SessionId) :
    (manager.removeSession id).Shrinks manager := by
  intro other session found
  unfold removeSession at found
  split at found
  · exact found
  · exact lookup_of_erase found

theorem evictIdleAt_keeps (now : Nat)
    (step : ∀ reason entry evicted, Good evicted → Good (evictEntry reason entry evicted)) (good : Good ([], manager)) :
    Good (manager.evictIdleAt now) := by
  have every : ∀ (entries : List (Nat × SessionId)) evicted, Good evicted →
      Good (entries.foldl (fun evicted entry => evictEntry .idle entry evicted) evicted) := by
    intro entries
    induction entries with
    | nil => exact fun _ good => good
    | cons entry rest ih => exact fun evicted good => ih _ (step _ _ _ good)
  exact every _ _ good

theorem evictCapacity_keeps (rounds : Nat)
    (step : ∀ reason entry evicted, Good evicted → Good (evictEntry reason entry evicted)) (good : Good evicted) :
    Good (evictCapacity rounds evicted) := by
  induction rounds generalizing evicted with
  | zero => exact good
  | succ rounds ih =>
    simp only [evictCapacity]
    split
    · exact good
    · split
      · exact good
      · exact ih (step _ _ _ good)

/-- Evicted sessions, and only they, are gone and reported. -/
structure Evicts (manager : EapSessionManager) (evicted : List (SessionId × EvictionReason) × EapSessionManager) :
    Prop where
  shrinks : evicted.2.Shrinks manager
  limit : evicted.2.maxSessions = manager.maxSessions
  reported : ∀ id, manager.sessions.lookup id ≠ none → evicted.2.sessions.lookup id = none → id ∈ evicted.1.map Prod.fst
  gone : ∀ id ∈ evicted.1.map Prod.fst, evicted.2.sessions.lookup id = none

theorem Evicts.refl (manager : EapSessionManager) : manager.Evicts ([], manager) :=
  ⟨fun _ _ found => found, rfl, fun _ live absent => absurd absent live, fun _ member => by cases member⟩

theorem Evicts.entry (reason : EvictionReason) (entry : Nat × SessionId)
    (evicted : List (SessionId × EvictionReason) × EapSessionManager) (evicts : manager.Evicts evicted) :
    manager.Evicts (evictEntry reason entry evicted) where
  shrinks := fun id session found => evicts.shrinks id session (lookup_of_erase found)
  limit := evicts.limit
  reported := by
    intro id live absent
    by_cases earlier : evicted.2.sessions.lookup id = none
    · exact List.map_append ▸ List.mem_append_left _ (evicts.reported id live earlier)
    · have same : id = entry.2 := by
        by_contra different
        exact earlier (AList.lookup_erase_ne different ▸ absent)
      subst same
      simp [evictEntry, earlier]
  gone := by
    intro id member
    by_cases same : id = entry.2
    · subst same
      exact AList.lookup_erase _ _
    · have earlier : id ∈ evicted.1.map Prod.fst := by
        simp only [evictEntry, List.map_append, List.mem_append] at member
        rcases member with old | new
        · exact old
        · split at new
          · cases new
          · exact absurd (by simpa using new) same
      exact (AList.lookup_erase_ne same).trans (evicts.gone id earlier)

theorem evictIdleAt_evicts (manager : EapSessionManager) (now : Nat) : manager.Evicts (manager.evictIdleAt now) :=
  evictIdleAt_keeps now Evicts.entry (.refl manager)

theorem evictAt_evicts (manager : EapSessionManager) (now : Nat) : manager.Evicts (manager.evictAt now) :=
  evictCapacity_keeps _ Evicts.entry (manager.evictIdleAt_evicts now)

end Shrinking

end EapSessionManager

end UsgRadius.Eap
