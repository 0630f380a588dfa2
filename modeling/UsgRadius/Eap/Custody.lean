import UsgRadius.Eap.Conversation

namespace UsgRadius.Eap

open Data EapAuthHandler World

/-! Who works on a conversation. A call owns a conversation from when it starts
it or takes the Response to the outstanding Request until it issues the next
Request; nobody else feeds its method, and what the owner has seen of the
conversation stays true. -/

variable {Connection : Type}

structure View (Connection : Type) where
  history : List (Event Connection)
  session : Option EapSession
  tls : Option (EapTlsServer Connection)
  teap : Option (TeapServer Connection)

def World.view (id : SessionId) (world : World Connection) : View Connection where
  history := conversation id world.journal
  session := world.manager.sessions.lookup id
  tls := world.tlsSessions.lookup id
  teap := world.teapSessions.lookup id

def Vouched (engine : TlsEngine Connection) (id : SessionId) (username : String)
    (history : List (Event Connection)) : Prop :=
  ∃ server, .examined id username server ∈ history ∧ identityVerified engine username server = true

namespace View

/-- A method that seems not to have processed anything has not. -/
def Settled (id : SessionId) (view : View Connection) : Prop :=
  (∀ server, view.tls = some server → server.untouched = true → .fed id ∉ view.history) ∧
    ∀ server, view.teap = some server → server.peerVersion = none → .fed id ∉ view.history

structure Coherent (engine : TlsEngine Connection) (settings : Settings) (id : SessionId) (view : View Connection) : Prop where
  opened : view.history ≠ [] ∨ view.session ≠ none ∨ view.tls ≠ none ∨ view.teap ≠ none →
    ∃ origin, .started id origin ∈ view.history
  fits : ∀ origin, .started id origin ∈ view.history → origin.Fits
  once : ∀ first second, .started id first ∈ view.history → .started id second ∈ view.history → first = second
  bound : ∀ session origin, view.session = some session → .started id origin ∈ view.history →
    session.peerBinding = origin.encode
  awaits : ∀ session, view.session = some session → session.outstandingIdentifier = outstanding view.history
  tried : ∀ session, view.session = some session → session.attemptCount = 0 → .renegotiated id ∉ view.history
  proposed : ∀ session, view.session = some session → session.attemptCount = 0 →
    session.eapMethod = none ∨ session.eapMethod = preferredMethod settings
  committed : ∀ server origin, view.tls = some server → server.commitmentSent = true →
    .started id origin ∈ view.history → Vouched engine id origin.username view.history
  single : view.tls = none ∨ view.teap = none
  settled : outstanding view.history ≠ none → view.Settled id

/-- A session seen again: what the handler checks about it is as before, or the
preferred method is proposed in it. -/
structure SameStanding (settings : Settings) (after before : EapSession) : Prop where
  peerBinding : after.peerBinding = before.peerBinding
  outstandingIdentifier : after.outstandingIdentifier = before.outstandingIdentifier
  attemptCount : after.attemptCount = before.attemptCount
  eapMethod : after.eapMethod = before.eapMethod ∨ after.eapMethod = preferredMethod settings

theorem SameStanding.refl (settings : Settings) (session : EapSession) : SameStanding settings session session :=
  ⟨rfl, rfl, rfl, .inl rfl⟩

/-- Nothing happened in the conversation, but parts of it may be gone. -/
structure Wanes (settings : Settings) (after before : View Connection) : Prop where
  history : after.history = before.history
  session : ∀ session, after.session = some session →
    ∃ earlier, before.session = some earlier ∧ SameStanding settings session earlier
  tls : ∀ server, after.tls = some server → before.tls = some server
  teap : ∀ server, after.teap = some server → before.teap = some server

section Waning

variable {engine : TlsEngine Connection} {settings : Settings} {id : SessionId} {after before : View Connection}

theorem Wanes.refl (settings : Settings) (view : View Connection) : Wanes settings view view :=
  ⟨rfl, fun session found => ⟨session, found, .refl settings session⟩, fun _ found => found, fun _ found => found⟩

theorem Wanes.vacant (wanes : Wanes settings after before) :
    (before.session = none → after.session = none) ∧ (before.tls = none → after.tls = none) ∧
      (before.teap = none → after.teap = none) := by
  obtain ⟨history, _ | session, _ | tls, _ | teap⟩ := after <;> cases wanes <;> grind

theorem Coherent.wane (coherent : before.Coherent engine settings id) (wanes : Wanes settings after before) :
    after.Coherent engine settings id := by
  have vacant := wanes.vacant
  cases coherent
  cases wanes
  constructor <;> grind [SameStanding, Settled]

end Waning

end View

structure Grip (Connection : Type) where
  id : SessionId
  /-- The Identifier of the Response it took; the call that starts a conversation
  has none. -/
  claimed : Option UInt8
  noTls : Bool
  noTeap : Bool
  unfed : Bool
  untried : Bool
  settled : Bool
  vouched : Bool
  keyed : Option (EapTlsServer Connection)
  released : Option (TeapServer Connection)

namespace Grip

def creator (id : SessionId) : Grip Connection where
  id
  claimed := none
  noTls := true
  noTeap := true
  unfed := true
  untried := true
  settled := true
  vouched := false
  keyed := none
  released := none

def claimant (id : SessionId) (identifier : UInt8) : Grip Connection where
  id
  claimed := some identifier
  noTls := false
  noTeap := false
  unfed := false
  untried := false
  settled := true
  vouched := false
  keyed := none
  released := none

structure Backed (engine : TlsEngine Connection) (arrival : Arrival) (grip : Grip Connection)
    (view : View Connection) : Prop where
  started : .started grip.id arrival.origin ∈ view.history
  quiet : outstanding view.history = none
  claimed : ∀ identifier, grip.claimed = some identifier → inHand view.history = some (arrival, identifier)
  noTls : grip.noTls = true → view.tls = none
  noTeap : grip.noTeap = true → view.teap = none
  unfed : grip.unfed = true → .fed grip.id ∉ view.history
  untried : grip.untried = true → .renegotiated grip.id ∉ view.history
  settled : grip.settled = true → view.Settled grip.id
  vouched : grip.vouched = true → Vouched engine grip.id arrival.username view.history
  keyed : ∀ server, grip.keyed = some server → .keyed grip.id server ∈ view.history
  released : ∀ server, grip.released = some server → .released grip.id server ∈ view.history

theorem Backed.wane {engine : TlsEngine Connection} {settings : Settings} {arrival : Arrival} {grip : Grip Connection}
    {after before : View Connection} (backed : grip.Backed engine arrival before) (wanes : View.Wanes settings after before) :
    grip.Backed engine arrival after := by
  have vacant := wanes.vacant
  cases backed
  cases wanes
  constructor <;> grind [View.Settled]

end Grip

/-! ## What the effects do to the conversations -/

/-- A method is proposed only as the preferred one. -/
def Effect.proposes (settings : Settings) : (Answer : Type) → Effect Connection Answer → Prop
  | _, .updateSession _ (.identify _ method) => method = preferredMethod settings
  | _, _ => True

def Effect.isQuiet : (Answer : Type) → Effect Connection Answer → Bool
  | _, .drawState => false
  | _, .createSession _ _ => false
  | _, .updateSession _ (.renegotiate _) => false
  | _, .nextIdentifier _ => false
  | _, .claimResponse _ _ _ => false
  | _, .tlsPut _ _ => false
  | _, .teapPut _ _ => false
  | _, .note _ => false
  | _, _ => true

section Effects

variable {settings : Settings} {world after : World Connection} {id other : SessionId} {session : EapSession}
  {events : List (Event Connection)} {event : Event Connection}

theorem sameStanding_transition (state : EapState) (now : Nat) (session : EapSession) :
    View.SameStanding settings (session.transition state now) session := by
  unfold EapSession.transition
  split <;> exact ⟨rfl, rfl, rfl, .inl rfl⟩

theorem sameStanding_apply {change : SessionChange}
    (proposes : Effect.proposes settings Bool (.updateSession id change : Effect Connection Bool))
    (quiet : ∀ method, change ≠ .renegotiate method) (now : Nat) (session : EapSession) :
    View.SameStanding settings (change.apply now session) session := by
  cases change with
  | touch => exact .refl settings session
  | seed identifier => exact ⟨rfl, rfl, rfl, .inl rfl⟩
  | identify username method =>
    have received : View.SameStanding settings _ _ :=
      sameStanding_transition .identityReceived now { session with identity := some username }
    have requested : View.SameStanding settings _ _ := sameStanding_transition .methodRequested now
      (EapSession.transition .identityReceived now { session with identity := some username })
    exact ⟨requested.peerBinding.trans received.peerBinding,
      requested.outstandingIdentifier.trans received.outstandingIdentifier,
      requested.attemptCount.trans received.attemptCount, .inr proposes⟩
  | renegotiate method => exact absurd rfl (quiet method)
  | succeed => exact sameStanding_transition .success now session

theorem wanes_of_shrinks {manager : EapSessionManager} (shrinks : manager.Shrinks world.manager) (id : SessionId) :
    View.Wanes settings ({ world with manager }.view id) (world.view id) :=
  ⟨rfl, fun session found => ⟨session, shrinks id session found, .refl settings session⟩, fun _ found => found,
    fun _ found => found⟩

theorem EapAuthHandler.Sets.here (sets : Sets id session events world after)
    (about : ∀ event ∈ events, event.session = some id) :
    after.view id = { world.view id with history := events ++ (world.view id).history, session := some session } := by
  have own : conversation id (events ++ world.journal) = events ++ conversation id world.journal := by
    rw [conversation, List.filter_append, List.filter_eq_self.mpr fun event member => decide_eq_true (about event member)]
    rfl
  simp only [view, sets.own, sets.journal, sets.tls, sets.teap, own]

theorem EapAuthHandler.Sets.elsewhere (sets : Sets id session events world after)
    (about : ∀ event ∈ events, event.session = some id) (different : other ≠ id) :
    after.view other = world.view other := by
  have another : conversation other (events ++ world.journal) = conversation other world.journal := by
    rw [conversation, List.filter_append, List.filter_eq_nil_iff.mpr fun event member => ?_]
    · rfl
    · simpa [about event member] using different.symm
  simp only [view, sets.others other different, sets.journal, sets.tls, sets.teap, another]

theorem quiet_wanes {Answer : Type} {effect : Effect Connection Answer} {answer : Answer}
    (quiet : effect.isQuiet = true) (proposes : effect.proposes settings)
    (performed : Performs Answer effect world answer after) :
    after.journal = world.journal ∧ ∀ id, View.Wanes settings (after.view id) (world.view id) := by
  cases effect with
  | acquire lock mode | sessionCount | getSession id | tlsGet id | teapGet id =>
    obtain ⟨_, rfl⟩ := performed
    exact ⟨rfl, fun id => .refl settings _⟩
  | evictIdleAt now =>
    obtain ⟨_, rfl⟩ := performed
    exact ⟨rfl, wanes_of_shrinks (world.manager.evictIdleAt_evicts now).shrinks⟩
  | evictAt now =>
    obtain ⟨_, rfl⟩ := performed
    exact ⟨rfl, wanes_of_shrinks (world.manager.evictAt_evicts now).shrinks⟩
  | removeSession id =>
    cases performed
    exact ⟨rfl, wanes_of_shrinks (world.manager.removeSession_shrinks id)⟩
  | updateSession id change =>
    have notNak : ∀ method, change ≠ .renegotiate method := by
      intro method same
      subst same
      cases quiet
    have silent : (change.events id : List (Event Connection)) = [] := by
      cases change with
      | renegotiate method => exact absurd rfl (notNak method)
      | _ => rfl
    rcases updateSession_cases performed with ⟨_, _, rfl⟩ | ⟨now, session, _, found, sets⟩
    · exact ⟨rfl, fun id => .refl settings _⟩
    · rw [silent] at sets
      refine ⟨sets.journal, fun other => ?_⟩
      by_cases here : other = id
      · rw [here, sets.here (by simp)]
        refine ⟨rfl, fun later is => ⟨session, found, ?_⟩, fun _ found => found, fun _ found => found⟩
        cases is
        have same := sameStanding_apply proposes notNak now
          (EapSession.updateActivity now { session with lruSeq := world.manager.nextSeq })
        exact ⟨same.peerBinding, same.outstandingIdentifier, same.attemptCount, same.eapMethod⟩
      · rw [sets.elsewhere (by simp) here]
        exact .refl settings _
  | tlsRemove ids =>
    cases performed
    exact ⟨rfl, fun id => ⟨rfl, fun session found => ⟨session, found, .refl settings session⟩,
      fun _ found => (Maps.lookup_of_eraseAll found).1, fun _ found => found⟩⟩
  | teapRemove ids =>
    cases performed
    exact ⟨rfl, fun id => ⟨rfl, fun session found => ⟨session, found, .refl settings session⟩,
      fun _ found => found, fun _ found => (Maps.lookup_of_eraseAll found).1⟩⟩
  | drawState | createSession _ _ | nextIdentifier _ | claimResponse _ _ _ | tlsPut _ _ | teapPut _ _ | note _ => cases quiet
  | release _ _ | now | drawNonce | openConnection _ | getUserPassword _ =>
    cases performed
    exact ⟨rfl, fun id => .refl settings (world.view id)⟩

theorem view_record_other (different : event.session ≠ some other) :
    (world.record event).view other = world.view other := by
  simp only [view, record, conversation_other different]

theorem view_record_own (own : event.session = some id) :
    (world.record event).view id = { world.view id with history := event :: (world.view id).history } := by
  simp only [view, record, conversation_own own]

theorem view_tlsPut (server : EapTlsServer Connection) (other : SessionId) :
    { world with tlsSessions := world.tlsSessions.insert id server }.view other =
      if other = id then { world.view other with tls := some server } else world.view other := by
  split
  · rename_i same
    subst same
    simp only [view, AList.lookup_insert]
  · rename_i different
    simp only [view, AList.lookup_insert_ne different]

theorem view_teapPut (server : TeapServer Connection) (other : SessionId) :
    { world with teapSessions := world.teapSessions.insert id server }.view other =
      if other = id then { world.view other with teap := some server } else world.view other := by
  split
  · rename_i same
    subst same
    simp only [view, AList.lookup_insert]
  · rename_i different
    simp only [view, AList.lookup_insert_ne different]

end Effects

section Extending

variable {engine : TlsEngine Connection} {settings : Settings} {arrival : Arrival} {id : SessionId}
  {grip : Grip Connection} {view : View Connection} {event : Event Connection}

/-- Something happens in the conversation, to its session too. -/
abbrev View.goes (event : Event Connection) (session : Option EapSession) (view : View Connection) : View Connection :=
  { view with history := event :: view.history, session }

theorem View.Coherent.note {origin : Origin} (coherent : view.Coherent engine settings id)
    (started : .started id origin ∈ view.history) (quiet : outstanding view.history = none)
    (notStart : ∀ origin, event ≠ .started id origin) (notNak : event ≠ .renegotiated id)
    (same : outstanding (event :: view.history) = outstanding view.history) :
    (view.goes event view.session).Coherent engine settings id := by
  cases coherent
  constructor <;> grind [Vouched]

theorem View.Coherent.start {session : EapSession} (coherent : view.Coherent engine settings id)
    (fresh : ∀ origin, .started id origin ∉ view.history) (binding : session.peerBinding = arrival.origin.encode)
    (unasked : session.outstandingIdentifier = none) (unproposed : session.eapMethod = none) :
    (view.goes (.started id arrival.origin) (some session)).Coherent engine settings id ∧
      (Grip.creator id).Backed engine arrival (view.goes (.started id arrival.origin) (some session)) := by
  obtain ⟨empty, noTls, noTeap⟩ : view.history = [] ∧ view.tls = none ∧ view.teap = none := by
    by_contra some
    obtain ⟨origin, member⟩ := coherent.opened (by tauto)
    exact fresh origin member
  have fits := arrival.origin_fits
  refine ⟨?_, ?_⟩ <;> constructor <;> grind [View.Settled, outstanding, inHand, Grip.creator]

theorem View.Coherent.claim {session : EapSession} {identifier : UInt8} (coherent : view.Coherent engine settings id)
    (found : view.session = some session) (binding : session.peerBinding = arrival.origin.encode)
    (awaited : session.outstandingIdentifier = some identifier) :
    (view.goes (.claimed id arrival identifier)
        (some { session with outstandingIdentifier := none })).Coherent engine settings id ∧
      (Grip.claimant id identifier).Backed engine arrival
        (view.goes (.claimed id arrival identifier) (some { session with outstandingIdentifier := none })) := by
  obtain ⟨origin, started⟩ := coherent.opened (.inr (.inl (by simp [found])))
  have same : origin = arrival.origin := by
    apply Origin.encode_inj (coherent.fits origin started) arrival.origin_fits
    rw [← coherent.bound session origin found started, binding]
  subst same
  cases coherent
  refine ⟨?_, ?_⟩ <;> constructor <;> grind [View.Settled, Vouched, outstanding, inHand, Grip.claimant]

theorem View.Coherent.issue {session issuing : EapSession} {identifier : UInt8} (coherent : view.Coherent engine settings grip.id)
    (backed : grip.Backed engine arrival view) (settled : grip.settled = true)
    (found : view.session = some session) (binding : issuing.peerBinding = session.peerBinding)
    (awaits : issuing.outstandingIdentifier = some identifier)
    (attempts : issuing.attemptCount = session.attemptCount) (method : issuing.eapMethod = session.eapMethod) :
    (view.goes (.issued grip.id identifier) (some issuing)).Coherent engine settings grip.id := by
  cases coherent
  cases backed
  constructor <;> grind [View.Settled, Vouched, outstanding]

theorem Grip.Backed.renegotiate {session renegotiating : EapSession} (backed : grip.Backed engine arrival view)
    (coherent : view.Coherent engine settings grip.id) (found : view.session = some session)
    (binding : renegotiating.peerBinding = session.peerBinding)
    (awaits : renegotiating.outstandingIdentifier = session.outstandingIdentifier)
    (tried : renegotiating.attemptCount ≠ 0) :
    (view.goes (.renegotiated grip.id) (some renegotiating)).Coherent engine settings grip.id ∧
      Grip.Backed engine arrival { grip with untried := false } (view.goes (.renegotiated grip.id) (some renegotiating)) := by
  cases coherent
  cases backed
  refine ⟨?_, ?_⟩ <;> constructor <;> grind [View.Settled, Vouched, outstanding, inHand]

theorem View.Coherent.putTls {server : EapTlsServer Connection} (coherent : view.Coherent engine settings grip.id)
    (backed : grip.Backed engine arrival view) (noTeap : grip.noTeap = true)
    (sent : server.commitmentSent = true → grip.vouched = true) :
    View.Coherent engine settings grip.id { view with tls := some server } ∧
      Grip.Backed engine arrival { grip with noTls := false, settled := !server.untouched || grip.unfed }
        { view with tls := some server } := by
  have named := arrival.origin_username
  cases coherent
  cases backed
  refine ⟨?_, ?_⟩ <;> constructor <;> grind [View.Settled]

theorem View.Coherent.putTeap {server : TeapServer Connection} (coherent : view.Coherent engine settings grip.id)
    (backed : grip.Backed engine arrival view) (noTls : grip.noTls = true) :
    View.Coherent engine settings grip.id { view with teap := some server } ∧
      Grip.Backed engine arrival { grip with noTeap := false, settled := server.peerVersion.isSome || grip.unfed }
        { view with teap := some server } := by
  cases coherent
  cases backed
  refine ⟨?_, ?_⟩ <;> constructor <;> grind [View.Settled]

end Extending

end UsgRadius.Eap
