import UsgRadius.Proxy.LinkLoad

namespace UsgRadius.Proxy

open Data

/-! The Identifiers of a RadSec link: which are in flight, and which a
Status-Server probe may take. -/

structure LinkTables where
  link : LinkState
  /-- The waiting probes, each with its token. -/
  probes : AList fun _ : UInt8 => UInt64
  /-- The Identifiers in flight, each with the time it was last sent. -/
  inFlight : AList fun _ : UInt8 => Nat
  identifierTtl : Nat

inductive ProbeRegistrationError where
  | duplicate (identifier : UInt8)
deriving DecidableEq

/-- What `Link::demux` makes of a frame. -/
inductive Routed where
  /-- A request of the home server, which is refused. -/
  | nak (request : Packet)
  | response (packet : Packet)
  | probeReply (token : UInt64) (packet : Packet)
  | unsolicited (packet : Packet)
deriving DecidableEq

namespace LinkTables

def spawn (capacity identifierTtl : Nat) : LinkTables where
  link := .initial capacity
  probes := ∅
  inFlight := ∅
  identifierTtl := identifierTtl

variable (tables : LinkTables)

/-- `RadsecLinkHandle::send`, with what it records. -/
def send (now : Nat) (frame : Octets) : Option LinkSendError × LinkTables :=
  match tables.link.send frame with
  | (some failure, _) => (some failure, tables)
  | (none, link) =>
    match frame.tail.head? with
    | none => (none, { tables with link })
    | some identifier => (none, { tables with link, inFlight := tables.inFlight.insert identifier now })

def registerProbe (identifier : UInt8) (token : UInt64) : Except ProbeRegistrationError LinkTables :=
  if identifier ∈ tables.probes then
    .error (.duplicate identifier)
  else
    .ok { tables with probes := tables.probes.insert identifier token }

/-- `ProbeReceiver::drop`. -/
def dropProbe (identifier : UInt8) (token : UInt64) : LinkTables :=
  if tables.probes.lookup identifier = some token then
    { tables with probes := tables.probes.erase identifier, inFlight := tables.inFlight.erase identifier }
  else
    tables

def identifierBusy (identifier : UInt8) (now : Nat) : Bool :=
  identifier ∈ tables.probes ||
    (tables.inFlight.lookup identifier).any fun sent => now - sent < tables.identifierTtl

def freeIdentifiers (now : Nat) : List UInt8 :=
  ((List.range 256).map UInt8.ofNat).filter fun identifier => !tables.identifierBusy identifier now

/-- `pick` is the random choice. -/
def freeIdentifier (now pick : Nat) : Option UInt8 :=
  let free := tables.freeIdentifiers now
  free[pick % free.length]?

def demux (frame : Octets) : Except PacketError (Routed × LinkTables) := do
  let packet ← Packet.decode frame
  if packet.code = .coaRequest ∨ packet.code = .disconnectRequest then
    return (.nak packet, tables)
  else
    let released := { tables with inFlight := tables.inFlight.erase packet.identifier }
    if packet.attributes.any (·.attrType = AttributeType.proxyState.asU8) then
      return (.response packet, released)
    else
      match tables.probes.lookup packet.identifier with
      | some token => return (.probeReply token packet, released)
      | none => return (.unsolicited packet, released)

/-- A step of `Link::run`. A new connection has no Identifiers in flight; when one
ends the probes go with it. -/
def move (step : LinkMove) : Option LinkTables :=
  match tables.link.move step with
  | none => none
  | some link => some { tables with
      link
      probes := if step = .discard then ∅ else tables.probes
      inFlight := if step = .count then ∅ else tables.inFlight }

end LinkTables

/-! ## Forwarded requests that await their replies -/

structure Awaited where
  identifier : UInt8
  key : ProxyStateKey
  sentAt : Nat
deriving DecidableEq

def awaited (now : Nat) (frame : Octets) : Option Awaited := do
  let identifier ← frame.tail.head?
  let key ← frameKey frame
  return ⟨identifier, key, now⟩

/-- Responses are told apart by their Proxy-State. -/
def Routed.answers : Routed → Awaited → Bool
  | .response packet, request => lastProxyState packet = some request.key
  | _, _ => false

/-- The link with the time, and the requests forwarded on the present connection
that no response has come back for. -/
structure LinkHistory where
  tables : LinkTables
  clock : Nat
  awaiting : List Awaited

inductive LinkEvent where
  | send (frame : Octets)
  | registerProbe (identifier : UInt8) (token : UInt64)
  | dropProbe (identifier : UInt8) (token : UInt64)
  | inbound (frame : Octets)
  | move (step : LinkMove)
deriving DecidableEq

namespace LinkHistory

def spawn (capacity identifierTtl : Nat) : LinkHistory := ⟨.spawn capacity identifierTtl, 0, []⟩

def moved (history : LinkHistory) (step : LinkMove) : LinkHistory :=
  match history.tables.move step with
  | none => history
  | some tables =>
    { history with tables, awaiting := if tables.link.stage = .serving then history.awaiting else [] }

/-- A frame that is read; one that does not decode ends the connection. -/
def received (history : LinkHistory) (frame : Octets) : LinkHistory :=
  if history.tables.link.stage = .serving then
    match history.tables.demux frame with
    | .error _ => history.moved .lose
    | .ok (routed, tables) =>
      { history with tables, awaiting := history.awaiting.filter fun request => !routed.answers request }
  else
    history

def happens (history : LinkHistory) : LinkEvent → LinkHistory
  | .send frame =>
    match history.tables.send history.clock frame with
    | (some _, tables) => { history with tables }
    | (none, tables) =>
      { history with tables, awaiting := (awaited history.clock frame).toList ++ history.awaiting }
  | .registerProbe identifier token =>
    match history.tables.registerProbe identifier token with
    | .error _ => history
    | .ok tables => { history with tables }
  | .dropProbe identifier token => { history with tables := history.tables.dropProbe identifier token }
  | .inbound frame => history.received frame
  | .move step => history.moved step

def step (history : LinkHistory) (elapsed : Nat) (event : LinkEvent) : LinkHistory :=
  { history with clock := history.clock + elapsed }.happens event

/-- Reachable by events that meet a condition on the history before them. -/
inductive Reached (meets : LinkHistory → LinkEvent → Prop) (start : LinkHistory) : LinkHistory → Prop
  | start : Reached meets start start
  | step {history : LinkHistory} (elapsed : Nat) (event : LinkEvent) (reached : Reached meets start history)
      (met : meets history event) : Reached meets start (history.step elapsed event)

/-- Identifiers are released only where no other request awaits its reply under
them: a dropped probe shares its Identifier with none, and a frame that comes back
under an Identifier answers every request that awaits a reply under it. -/
def ReleasesOwn (history : LinkHistory) : LinkEvent → Prop
  | .dropProbe identifier token => history.tables.probes.lookup identifier = some token →
      ∀ request ∈ history.awaiting, request.identifier ≠ identifier
  | .inbound frame => ∀ packet, Packet.decode frame = .ok packet →
      packet.code ≠ .coaRequest → packet.code ≠ .disconnectRequest →
      ∀ request ∈ history.awaiting, request.identifier = packet.identifier →
        lastProxyState packet = some request.key
  | _ => True

/-- No probe may take the Identifier of a request that awaits its reply for less
than the TTL. -/
def Exclusive (history : LinkHistory) : Prop :=
  ∀ elapsed pick identifier,
    history.tables.freeIdentifier (history.clock + elapsed) pick = some identifier →
    ∀ request ∈ history.awaiting, request.identifier = identifier →
      history.tables.identifierTtl ≤ history.clock + elapsed - request.sentAt

end LinkHistory

namespace LinkTables

variable {tables after : LinkTables} {now : Nat} {identifier : UInt8} {frame : Octets}

theorem freeIdentifier_expired {pick sent : Nat} (found : tables.freeIdentifier now pick = some identifier)
    (recorded : tables.inFlight.lookup identifier = some sent) : tables.identifierTtl ≤ now - sent := by
  have free := (List.mem_filter.mp (List.mem_of_getElem? found)).2
  simp only [identifierBusy, recorded, Option.any_some, Bool.not_eq_true', Bool.or_eq_false_iff,
    decide_eq_false_iff_not] at free
  omega

theorem send_ok (sent : tables.send now frame = (none, after)) :
    after.inFlight = match frame.tail.head? with
      | none => tables.inFlight
      | some identifier => tables.inFlight.insert identifier now := by
  simp only [send] at sent
  split at sent
  · cases sent
  · split at sent <;> cases sent <;> rfl

theorem send_error {failure : LinkSendError} (refused : tables.send now frame = (some failure, after)) :
    after = tables := by
  simp only [send] at refused
  split at refused
  · cases refused
    rfl
  · split at refused <;> cases refused

theorem demux_ok {routed : Routed} (read : tables.demux frame = .ok (routed, after)) :
    ∃ packet, Packet.decode frame = .ok packet ∧
      (after = tables ∨
        (packet.code ≠ .coaRequest ∧ packet.code ≠ .disconnectRequest) ∧
        after = { tables with inFlight := tables.inFlight.erase packet.identifier } ∧
        (lastProxyState packet ≠ none → routed = .response packet)) := by
  obtain ⟨packet, decoded, read⟩ := Results.bind_eq_ok.mp read
  refine ⟨packet, decoded, ?_⟩
  split at read
  · cases read
    exact .inl rfl
  · rename_i reply
    refine .inr ⟨not_or.mp reply, ?_⟩
    split at read
    · cases read
      exact ⟨rfl, fun _ => rfl⟩
    · rename_i bare
      have unkeyed : lastProxyState packet = none := by
        have none : packet.attributes.reverse.find? (·.attrType = AttributeType.proxyState.asU8) = none := by
          simpa using bare
        simp [lastProxyState, none]
      split at read <;> cases read <;> exact ⟨rfl, fun keyed => absurd unkeyed keyed⟩

theorem move_some {step : LinkMove} (taken : tables.move step = some after) :
    after.identifierTtl = tables.identifierTtl ∧ (after.link.stage = .serving → after.inFlight = tables.inFlight) := by
  simp only [move] at taken
  split at taken
  · cases taken
  · rename_i link moved
    cases taken
    refine ⟨rfl, fun serving => if_neg fun count => ?_⟩
    subst count
    obtain ⟨_, same⟩ := Option.ite_none_right_eq_some.mp moved
    cases same
    cases serving

end LinkTables

namespace LinkHistory

structure Tracked (history : LinkHistory) : Prop where
  recorded : ∀ request ∈ history.awaiting,
    ∃ sent, history.tables.inFlight.lookup request.identifier = some sent ∧ request.sentAt ≤ sent
  past : ∀ request ∈ history.awaiting, request.sentAt ≤ history.clock

section Tracking

variable {history : LinkHistory}

section

variable (tracked : history.Tracked)

include tracked

theorem Tracked.sent {tables : LinkTables} {frame : Octets}
    (sent : history.tables.send history.clock frame = (none, tables)) :
    Tracked { history with tables, awaiting := (awaited history.clock frame).toList ++ history.awaiting } := by
  have recorded := LinkTables.send_ok sent
  cases first : frame.tail.head? with
  | none =>
    rw [first] at recorded
    have silent : awaited history.clock frame = none := by simp [awaited, first]
    refine ⟨fun request member => ?_, fun request member => ?_⟩ <;>
      simp only [silent, Option.toList_none, List.nil_append] at member
    · rw [recorded]
      exact tracked.recorded request member
    · exact tracked.past request member
  | some identifier =>
    rw [first] at recorded
    have own (request : Awaited) (member : request ∈ (awaited history.clock frame).toList) :
        request.identifier = identifier ∧ request.sentAt = history.clock := by
      simp only [awaited, first, Option.bind_eq_bind, Option.bind_some, Option.mem_toList, Option.bind_eq_some_iff]
        at member
      obtain ⟨key, _, same⟩ := member
      cases same
      exact ⟨rfl, rfl⟩
    refine ⟨fun request member => ?_, fun request member => ?_⟩
    · rw [recorded]
      have early : request.sentAt ≤ history.clock := by
        rcases List.mem_append.mp member with new | old
        · exact (own request new).2.le
        · exact tracked.past request old
      by_cases same : request.identifier = identifier
      · exact ⟨history.clock, by rw [same, AList.lookup_insert], early⟩
      · rcases List.mem_append.mp member with new | old
        · exact absurd (own request new).1 same
        · rw [AList.lookup_insert_ne same]
          exact tracked.recorded request old
    · rcases List.mem_append.mp member with new | old
      · exact (own request new).2.le
      · exact tracked.past request old

theorem Tracked.moved (step : LinkMove) : (history.moved step).Tracked := by
  unfold LinkHistory.moved
  split
  · exact tracked
  · rename_i tables taken
    by_cases serving : tables.link.stage = .serving
    · refine ⟨fun request member => ?_, fun request member => ?_⟩ <;> simp only [serving, if_true] at member
      · simp only [(LinkTables.move_some taken).2 serving]
        exact tracked.recorded request member
      · exact tracked.past request member
    · refine ⟨fun request member => ?_, fun request member => ?_⟩ <;> simp [serving] at member

theorem Tracked.received {frame : Octets} (met : history.ReleasesOwn (.inbound frame)) :
    (history.received frame).Tracked := by
  unfold LinkHistory.received
  split
  · split
    · exact tracked.moved .lose
    · rename_i routed tables read
      obtain ⟨packet, decoded, unchanged | ⟨reply, released, keyed⟩⟩ := LinkTables.demux_ok read
      · subst unchanged
        exact ⟨fun request member => tracked.recorded request (List.mem_filter.mp member).1,
          fun request member => tracked.past request (List.mem_filter.mp member).1⟩
      · refine ⟨fun request member => ?_, fun request member => tracked.past request (List.mem_filter.mp member).1⟩
        obtain ⟨old, unanswered⟩ := List.mem_filter.mp member
        have other : request.identifier ≠ packet.identifier := by
          intro same
          have key := met packet decoded reply.1 reply.2 request old same
          rw [keyed (by rw [key]; nofun)] at unanswered
          simp [Routed.answers, key] at unanswered
        rw [released]
        simp only [AList.lookup_erase_ne other]
        exact tracked.recorded request old
  · exact tracked

theorem Tracked.happens {event : LinkEvent} (met : history.ReleasesOwn event) :
    (history.happens event).Tracked := by
  cases event with
  | send frame =>
    simp only [LinkHistory.happens]
    split
    · rename_i refused
      rw [LinkTables.send_error refused]
      exact tracked
    · rename_i sent
      exact tracked.sent sent
  | registerProbe identifier token =>
    simp only [LinkHistory.happens, LinkTables.registerProbe]
    split
    · exact tracked
    · rename_i registered
      split at registered
      · cases registered
      · cases registered
        exact ⟨tracked.recorded, tracked.past⟩
  | dropProbe identifier token =>
    simp only [LinkHistory.happens, LinkTables.dropProbe]
    split
    · rename_i own
      refine ⟨fun request member => ?_, tracked.past⟩
      simp only [AList.lookup_erase_ne (met own request member)]
      exact tracked.recorded request member
    · exact tracked
  | inbound frame => exact tracked.received met
  | move step => exact tracked.moved step

theorem Tracked.step {event : LinkEvent} (met : history.ReleasesOwn event) (elapsed : Nat) :
    (history.step elapsed event).Tracked := by
  have later : Tracked { history with clock := history.clock + elapsed } :=
    ⟨tracked.recorded, fun request member => (tracked.past request member).trans (Nat.le_add_right _ _)⟩
  exact later.happens (by cases event <;> exact met)

theorem Tracked.exclusive : history.Exclusive := by
  intro elapsed pick identifier free request member same
  obtain ⟨sent, recorded, early⟩ := tracked.recorded request member
  rw [same] at recorded
  have expired := LinkTables.freeIdentifier_expired free recorded
  omega

end

end Tracking

theorem releasesOwn_exclusive {capacity identifierTtl : Nat} {history : LinkHistory}
    (reached : Reached ReleasesOwn (.spawn capacity identifierTtl) history) : history.Exclusive := by
  have tracked : history.Tracked := by
    induction reached with
    | start => exact ⟨fun _ none => absurd none List.not_mem_nil, fun _ none => absurd none List.not_mem_nil⟩
    | step elapsed event _ met ih => exact ih.step met elapsed
  exact tracked.exclusive

section Sharing

/-- Events one after the other at one time, the last one first. -/
def after (events : List LinkEvent) (start : LinkHistory) : LinkHistory :=
  events.foldr (fun event history => history.step 0 event) start

theorem reached_after {meets : LinkHistory → LinkEvent → Prop} {events : List LinkEvent} (start : LinkHistory)
    (met : ∀ event ∈ events, ∀ history, meets history event) : Reached meets start (start.after events) := by
  induction events with
  | nil => exact .start
  | cons event rest ih =>
    exact .step 0 event (ih fun earlier member => met earlier (List.mem_cons_of_mem _ member))
      (met event List.mem_cons_self _)

def markedPacket (code : Code) (identifier mark : UInt8) : Packet :=
  { Packet.new code identifier (.zero 16) with
    attributes := [⟨AttributeType.proxyState.asU8, List.replicate 16 mark⟩] }

def connecting : List LinkEvent :=
  [.move .connect, .move .count, .move .drainResets, .move .drainOutbound]

theorem forwarded_exclusive : ∃ history, Reached ReleasesOwn (.spawn 4 60) history ∧
    history.awaiting.map Awaited.identifier = [5] ∧ history.Exclusive := by
  have reached : Reached ReleasesOwn (.spawn 4 60)
      ((spawn 4 60).after (.send (markedPacket .accessRequest 5 1).bytes :: connecting)) := by
    apply reached_after
    intro event member history
    simp only [connecting, List.mem_cons, List.not_mem_nil, or_false] at member
    rcases member with rfl | rfl | rfl | rfl | rfl <;> exact trivial
  exact ⟨_, reached, by decide +kernel, releasesOwn_exclusive reached⟩

/-- Two requests share an Identifier, and the reply to the first comes back. -/
def sharedByRequests : List LinkEvent :=
  .inbound (markedPacket .accessAccept 5 1).bytes :: .send (markedPacket .accessRequest 5 2).bytes ::
    .send (markedPacket .accessRequest 5 1).bytes :: connecting

/-- A request shares the Identifier of a probe, which is then dropped. -/
def sharedByProbe : List LinkEvent :=
  .dropProbe 5 1 :: .send (markedPacket .accessRequest 5 2).bytes :: .registerProbe 5 1 :: connecting

theorem sharedIdentifier_freed :
    (Reached (fun _ _ => True) (.spawn 4 60) ((spawn 4 60).after sharedByRequests) ∧
      ¬ ((spawn 4 60).after sharedByRequests).Exclusive) ∧
    Reached (fun _ _ => True) (.spawn 4 60) ((spawn 4 60).after sharedByProbe) ∧
      ¬ ((spawn 4 60).after sharedByProbe).Exclusive := by
  refine ⟨⟨reached_after _ fun _ _ _ => trivial, fun exclusive => ?_⟩,
    reached_after _ fun _ _ _ => trivial, fun exclusive => ?_⟩
  all_goals
    have expired := exclusive 0 5 5 (by decide +kernel) ⟨5, ⟨List.replicate 16 2, rfl⟩, 0⟩ (by decide +kernel) rfl
    exact absurd expired (by decide +kernel)

end Sharing

end LinkHistory

end UsgRadius.Proxy
