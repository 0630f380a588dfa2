import UsgRadius.Data.Hex
import UsgRadius.Data.Locks
import UsgRadius.Eap.Session
import UsgRadius.Eap.TeapServer
import UsgRadius.Proxy.Entry

namespace UsgRadius

open Data Attribute

/-- What an `AuthHandler` makes of an Access-Request. -/
inductive AuthResult where
  | accept (attributes : List Attribute) (msk : Option Octets)
  | reject
  | challenge (message : Option String) (state : Octets) (attributes : List Attribute)
  | discard
deriving DecidableEq

namespace IpAddr

def toCanonical : IpAddr → IpAddr
  | v4 octets => v4 octets
  | v6 octets =>
    if octets.octets.take 12 = List.replicate 10 0 ++ [0xff, 0xff] then
      v4 ⟨octets.octets.drop 12, by simp⟩
    else v6 octets

def octets : IpAddr → Octets
  | v4 octets => octets.octets
  | v6 octets => octets.octets

end IpAddr

namespace Eap

open Program

/-- What a conversation is bound to: the RADIUS client as the transport saw it,
the attributes that name the NAS, and the User-Name. -/
structure Origin where
  client : Option Octets
  nasIpAddress : Option Octets
  nasIpv6Address : Option Octets
  nasIdentifier : Option Octets
  userName : Option Octets
deriving DecidableEq

namespace Origin

def ofRequest (request : Packet) (client : Option IpAddr) : Origin where
  client := client.map fun address => address.toCanonical.octets
  nasIpAddress := (request.findAttribute AttributeType.nasIpAddress.asU8).map value
  nasIpv6Address := (request.findAttribute AttributeType.nasIpv6Address.asU8).map value
  nasIdentifier := (request.findAttribute AttributeType.nasIdentifier.asU8).map value
  userName := (request.findAttribute AttributeType.userName.asU8).map value

def put (tag : UInt8) : Option Octets → Octets
  | some value => tag :: 1 :: (toBe 2 value.length ++ value)
  | none => [tag, 0]

def encode (origin : Origin) : Octets :=
  put 0 origin.client ++ put AttributeType.nasIpAddress.asU8 origin.nasIpAddress ++
    put AttributeType.nasIpv6Address.asU8 origin.nasIpv6Address ++
    put AttributeType.nasIdentifier.asU8 origin.nasIdentifier ++ put AttributeType.userName.asU8 origin.userName

end Origin

def conversationBinding (request : Packet) (client : Option IpAddr) : Octets :=
  (Origin.ofRequest request client).encode

/-- An Access-Request as `authenticate_eap` is given it. No attribute is longer
than the decoder and the constructors of attributes allow. -/
structure Arrival where
  request : Packet
  client : Option IpAddr
  fits : ∀ attr ∈ request.attributes, attr.Fits

namespace Arrival

def origin (arrival : Arrival) : Origin :=
  .ofRequest arrival.request arrival.client

def username (arrival : Arrival) : String :=
  ((arrival.request.findAttribute AttributeType.userName.asU8).bind fun attr => fromUtf8 attr.value).getD ""

def state (arrival : Arrival) : Option Octets :=
  (arrival.request.findAttribute AttributeType.state.asU8).map value

def eapData (arrival : Arrival) : Octets :=
  ((arrival.request.attributes.filter fun attr => attr.attrType = AttributeType.eapMessage.asU8).map
    value).flatten

end Arrival

/-- An `Arc<ServerConfig>`. -/
structure ServerConfig where
  arc : Nat
deriving DecidableEq

/-- What is set before the handler is shared. -/
structure Settings where
  tlsConfigs : AList fun _ : String => ServerConfig
  maxFragmentSize : Nat
  teapMaxPhase2Rounds : Option Nat

inductive Lock where
  | sessionManager
  | tlsSessions
  | teapSessions
  | tlsConfigs
deriving DecidableEq

abbrev TeapServer (Connection : Type) := EapTeapServer Connection BasicPasswordAuthHandler

def stateLength : Nat := 16

/-- What an observer of the handler sees. -/
inductive Event (Connection : Type) where
  /-- The random source gives a State. -/
  | drawn (state : Block stateLength)
  | started (id : SessionId) (origin : Origin)
  /-- A Request with the Identifier goes out. -/
  | issued (id : SessionId) (identifier : UInt8)
  /-- The Response with the Identifier, in this request, is taken for processing. -/
  | claimed (id : SessionId) (arrival : Arrival) (identifier : UInt8)
  /-- A Nak is honoured. -/
  | renegotiated (id : SessionId)
  /-- Method data of the peer is processed. -/
  | fed (id : SessionId)
  /-- The certificate of the peer is looked at. -/
  | examined (id : SessionId) (username : String) (server : EapTlsServer Connection)
  /-- The keys of a completed handshake are extracted. -/
  | keyed (id : SessionId) (server : EapTlsServer Connection)
  /-- The MSK of a completed TEAP conversation is read. -/
  | released (id : SessionId) (server : TeapServer Connection)
  | answered (arrival : Arrival) (result : AuthResult)

structure World (Connection : Type) where
  manager : EapSessionManager
  tlsSessions : AList fun _ : SessionId => EapTlsServer Connection
  teapSessions : AList fun _ : SessionId => TeapServer Connection
  locks : LockTable Lock
  /-- What has happened, the latest first. -/
  journal : List (Event Connection)

/-- What is done to a session found by `get_session_mut`. -/
inductive SessionChange where
  | touch
  | seed (responseIdentifier : UInt8)
  | identify (username : String) (method : Option EapType)
  | renegotiate (method : EapType)
  | succeed
deriving DecidableEq

def SessionChange.apply (now : Nat) : SessionChange → EapSession → EapSession
  | touch, session => session
  | seed responseIdentifier, session => session.seedIdentifierAfter responseIdentifier
  | identify username method, session =>
    { EapSession.transition .methodRequested now
        (EapSession.transition .identityReceived now { session with identity := some username }) with
      eapMethod := method }
  | renegotiate method, session =>
    { session with attemptCount := session.attemptCount + 1, eapMethod := some method }
  | succeed, session => session.transition .success now

/-- What is seen of a change. -/
def SessionChange.events {Connection : Type} (id : SessionId) : SessionChange → List (Event Connection)
  | renegotiate _ => [.renegotiated id]
  | _ => []

inductive Effect (Connection : Type) : Type → Type
  | acquire (lock : Lock) (mode : LockMode) : Effect Connection Unit
  | release (lock : Lock) (mode : LockMode) : Effect Connection Unit
  | now : Effect Connection Nat
  | drawState : Effect Connection (Option (Block stateLength))
  | drawNonce : Effect Connection (Block 32)
  | openConnection (config : ServerConfig) : Effect Connection (Except String Connection)
  | getUserPassword (username : String) : Effect Connection (Option String)
  | evictIdleAt (now : Nat) : Effect Connection (List (SessionId × EvictionReason))
  | evictAt (now : Nat) : Effect Connection (List (SessionId × EvictionReason))
  | sessionCount : Effect Connection Nat
  | createSession (id : SessionId) (origin : Origin) : Effect Connection Unit
  | getSession (id : SessionId) : Effect Connection (Option EapSession)
  | updateSession (id : SessionId) (change : SessionChange) : Effect Connection Bool
  | nextIdentifier (id : SessionId) : Effect Connection (Option UInt8)
  | claimResponse (id : SessionId) (arrival : Arrival) (identifier : UInt8) : Effect Connection ResponseClaim
  | removeSession (id : SessionId) : Effect Connection Unit
  | tlsGet (id : SessionId) : Effect Connection (Option (EapTlsServer Connection))
  | tlsPut (id : SessionId) (server : EapTlsServer Connection) : Effect Connection Unit
  | tlsRemove (ids : List SessionId) : Effect Connection Unit
  | teapGet (id : SessionId) : Effect Connection (Option (TeapServer Connection))
  | teapPut (id : SessionId) (server : TeapServer Connection) : Effect Connection Unit
  | teapRemove (ids : List SessionId) : Effect Connection Unit
  | note (event : Event Connection) : Effect Connection Unit

namespace EapAuthHandler

abbrev Action (Connection Value : Type) := Program (Effect Connection) Empty Value

variable {Connection Value : Type}

def locked (lock : Lock) (mode : LockMode) (body : Action Connection Value) : Action Connection Value := do
  ask (.acquire lock mode)
  let value ← body
  ask (.release lock mode)
  return value

def activeSessionCount : Action Connection Nat :=
  locked .sessionManager .read (ask .sessionCount)

def dropMethodState (ids : List SessionId) : Action Connection Unit := do
  locked .tlsSessions .write (ask (.tlsRemove ids))
  locked .teapSessions .write (ask (.teapRemove ids))

def dropEvicted (evicted : List (SessionId × EvictionReason)) : Action Connection Nat := do
  if evicted.isEmpty then
    return 0
  else do
    dropMethodState (evicted.map Prod.fst)
    let _ ← activeSessionCount
    return evicted.length

def reapAt (now : Nat) : Action Connection Nat := do
  let evicted ← locked .sessionManager .write (ask (.evictAt now))
  dropEvicted evicted

def reapIdleAt (now : Nat) : Action Connection Nat := do
  let evicted ← locked .sessionManager .write (ask (.evictIdleAt now))
  dropEvicted evicted

def endSession (id : SessionId) : Action Connection Unit := do
  locked .sessionManager .write (ask (.removeSession id))
  dropMethodState [id]

def finish (id : SessionId) (result : AuthResult) : Action Connection AuthResult := do
  match result with
  | .challenge message state attributes => do
    let _ ← locked .sessionManager .write (ask (.updateSession id .touch))
    return .challenge message state attributes
  | result => do
    endSession id
    return result

def sessionIdForState (state : Option Octets) : Option SessionId :=
  match state with
  | none => none
  | some state => if state.length = stateLength then some (Hex.encode state) else none

def stateFor (id : SessionId) : Octets :=
  Hex.octets (utf8 id)

/-- A State that names a live conversation never replaces it. -/
def createUnlessLive (id : SessionId) (origin : Origin) : Action Connection (Option SessionId) := do
  match ← ask (.getSession id) with
  | some _ => return none
  | none => do
    ask (.createSession id origin)
    return some id

def startSession (origin : Origin) : Action Connection (Option SessionId) := do
  let _ ← reapAt (← ask .now)
  match ← ask .drawState with
  | none => return none
  | some state =>
    match sessionIdForState (some state.octets) with
    | none => return none
    | some id => locked .sessionManager .write (createUnlessLive id origin)

section Methods

variable (engine : TlsEngine Connection) (hmacs : Hmacs) (settings : Settings)

/-- `key.starts_with("teap_")`. -/
def isTeapKey (key : String) : Bool :=
  (utf8 "teap_").isPrefixOf (utf8 key)

def tlsEnabled : Bool :=
  (settings.tlsConfigs.lookup "").isSome

def teapEnabled : Bool :=
  settings.tlsConfigs.keys.any isTeapKey

def preferredMethod : Option EapType :=
  if teapEnabled settings then some .teap
  else if tlsEnabled settings then some .tls
  else none

def tlsConfig : Option ServerConfig :=
  match settings.tlsConfigs.lookup "" with
  | some config => some config
  | none => settings.tlsConfigs.entries.head?.map Sigma.snd

def teapConfig : Option ServerConfig :=
  match settings.tlsConfigs.lookup "teap_" with
  | some config => some config
  | none => (settings.tlsConfigs.keys.find? isTeapKey).bind settings.tlsConfigs.lookup

/-- An Access-Challenge with one EAP packet. -/
def challenge (id : SessionId) (message : Option String) (packet : EapPacket) : AuthResult :=
  match eapToRadiusAttributes packet with
  | .ok attributes => .challenge message (stateFor id) attributes
  | .error _ => .reject

def startEapTls (id : SessionId) : Action Connection AuthResult := do
  match ← locked .tlsConfigs .read (return tlsConfig settings) with
  | none => return .reject
  | some config => do
    let opened ← ask (.openConnection config)
    let server := (EapTlsServer.initializeConnection opened :
      Method (EapTlsServer Connection) Empty EapError Unit).run EapTlsServer.new
    match server.result with
    | .error _ => return .reject
    | .ok () => do
      locked .tlsSessions .write (ask (.tlsPut id server.state))
      match ← locked .sessionManager .write (ask (.nextIdentifier id)) with
      | none => return .reject
      | some identifier =>
        return challenge id (some "EAP-TLS authentication")
          (EapTlsPacket.startPacket.toEapRequest identifier)

def teapRequest (packet : TeapPacket) (identifier : UInt8) : EapPacket where
  code := .request
  identifier
  eapType := some .teap
  data := packet.toEapData

def innerMethodFor (username : String) : Option String → BasicPasswordAuthHandler
  | some password => .new username password
  | none => .withoutPassword username

def newTeapServer (inner : BasicPasswordAuthHandler) (opened : Except String Connection) :
    Outcome (TeapServer Connection) TeapEvent EapError Unit :=
  (do
    match settings.teapMaxPhase2Rounds with
    | none => EapTeapServer.initializeConnection opened
    | some rounds => do
      EapTeapServer.setMaxPhase2Rounds rounds
      EapTeapServer.initializeConnection opened :
    EapTeapServer.Step Connection BasicPasswordAuthHandler Unit).run (.build (some inner))

def offerTeap (id : SessionId) (server : TeapServer Connection) : Action Connection AuthResult := do
  ask (.teapPut id server)
  let identifier ← locked .sessionManager .write (ask (.nextIdentifier id))
  return challenge id (some "EAP-TEAP authentication") (teapRequest .startPacket (identifier.getD 0))

def startEapTeap (username : String) (id : SessionId) : Action Connection AuthResult :=
  locked .tlsConfigs .read (do
    match teapConfig settings with
    | none => return .reject
    | some config => do
      let password ← ask (.getUserPassword username)
      let opened ← ask (.openConnection config)
      let server := newTeapServer settings (innerMethodFor username password) opened
      match server.result with
      | .error _ => return .reject
      | .ok () => locked .teapSessions .write (offerTeap id server.state))

def startMethod (username : String) (id : SessionId) : Option EapType → Action Connection AuthResult
  | some .teap => startEapTeap settings username id
  | some .tls => startEapTls settings id
  | _ => return .reject

def handleIdentity (username : String) (id : SessionId) : Action Connection AuthResult := do
  let preferred ← locked .tlsConfigs .read (return preferredMethod settings)
  if ← locked .sessionManager .write (ask (.updateSession id (.identify username preferred))) then
    startMethod settings username id preferred
  else
    return .reject

/-- Whether the proposed method has processed data of the peer, as far as its
state tells. -/
def methodStarted (id : SessionId) : Option EapType → Action Connection Bool
  | some .teap => locked .teapSessions .read (do
      return (← ask (.teapGet id)).elim true fun server => server.negotiatedVersion.isSome)
  | some .tls => locked .tlsSessions .read (do
      return (← ask (.tlsGet id)).elim true fun server =>
        server.context.handshakeState != .initial && server.context.handshakeState != .started)
  | _ => return true

/-- The method a Nak may still decline. -/
def declinedMethod (id : SessionId) : Action Connection (Option (Option EapType)) := do
  match ← ask (.getSession id) with
  | none => return none
  | some session =>
    if session.attemptCount > 0 then
      return none
    else do
      let started ← methodStarted id session.eapMethod
      return if started then none else some session.eapMethod

/-- The first method the peer lists that is configured and not the declined one. -/
def nextMethod (declined : Option EapType) (listed : Octets) : Option EapType :=
  (listed.filterMap EapType.fromU8).find? fun eapType =>
    match eapType with
    | .tls => tlsEnabled settings && declined != some .tls
    | .teap => teapEnabled settings && declined != some .teap
    | _ => false

def handleNak (username : String) (id : SessionId) (nak : EapPacket) : Action Connection AuthResult := do
  match ← locked .sessionManager .read (declinedMethod id) with
  | none => return .reject
  | some declined => do
    match ← locked .tlsConfigs .read (return nextMethod settings declined nak.data) with
    | none => return .reject
    | some next => do
      dropMethodState [id]
      if ← locked .sessionManager .write (ask (.updateSession id (.renegotiate next))) then
        startMethod settings username id (some next)
      else
        return .reject

def nextId (id : SessionId) (response : EapPacket) : Action Connection UInt8 := do
  let identifier ← locked .sessionManager .write (ask (.nextIdentifier id))
  return identifier.getD (response.identifier + 1)

def sendTlsFragment (id : SessionId) (response : EapPacket) (server : EapTlsServer Connection) :
    Action Connection AuthResult := do
  ask (.tlsPut id server.nextOutgoingFragment.2)
  match server.nextOutgoingFragment.1 with
  | none => return .reject
  | some fragment => do
    let identifier ← nextId id response
    return challenge id none (fragment.toEapRequest identifier)

def successAttributes (identifier : UInt8) (server : EapTlsServer Connection) :
    Except EapError (List Attribute) :=
  match eapToRadiusAttributes (.success identifier) with
  | .error reason => .error reason
  | .ok attributes =>
    match server.sessionId engine with
    | none => .ok attributes
    | some sessionId =>
      match new AttributeType.eapKeyName.asU8 sessionId with
      | .ok attr => .ok (attributes ++ [attr])
      | .error _ => .ok attributes

def finishEapTlsSuccess (id : SessionId) (server : EapTlsServer Connection) (lastEapIdentifier : UInt8) :
    Action Connection AuthResult := do
  let extracted := (EapTlsServer.extractKeys engine : Method (EapTlsServer Connection) Empty EapError Unit).run server
  ask (.tlsPut id extracted.state)
  match extracted.result with
  | .error _ => return .reject
  | .ok () => do
    ask (.note (.keyed id extracted.state))
    let _ ← locked .sessionManager .write (ask (.updateSession id .succeed))
    match successAttributes engine lastEapIdentifier extracted.state, extracted.state.getMsk with
    | .ok attributes, some msk => return .accept attributes (some msk.octets)
    | _, _ => return .reject

/-- Without a certificate of the peer only the server is authenticated. -/
def identityVerified (username : String) (server : EapTlsServer Connection) : Bool :=
  match server.getPeerCertificates engine with
  | none => true
  | some _ =>
    match server.verifyPeerIdentity engine username with
    | .ok verified => verified
    | .error _ => false

def sendCommitment (id : SessionId) (response : EapPacket) (server : EapTlsServer Connection) :
    Action Connection AuthResult := do
  let written := (EapTlsServer.writeCommitmentRecord engine :
    Method (EapTlsServer Connection) Empty EapError Octets).run server
  ask (.tlsPut id written.state)
  match written.result with
  | .error _ => return .reject
  | .ok record => sendTlsFragment id response (written.state.queueOutgoingTls record settings.maxFragmentSize)

def concludeHandshake (username : String) (id : SessionId) (response : EapPacket)
    (server : EapTlsServer Connection) : Action Connection AuthResult := do
  ask (.note (.examined id username server))
  if !identityVerified engine username server then
    return .reject
  else if server.isTls13 engine then
    sendCommitment engine settings id response server
  else
    finishEapTlsSuccess engine id server response.identifier

def feedTls (username : String) (id : SessionId) (response : EapPacket) (packet : EapTlsPacket)
    (server : EapTlsServer Connection) : Action Connection AuthResult := do
  ask (.note (.fed id))
  let processed := (EapTlsServer.processClientMessage engine packet :
    Method (EapTlsServer Connection) Empty EapError (Option Octets)).run server
  ask (.tlsPut id processed.state)
  match processed.result with
  | .error _ => return .reject
  | .ok (some tlsData) =>
    sendTlsFragment id response (processed.state.queueOutgoingTls tlsData settings.maxFragmentSize)
  | .ok none =>
    if packet.flags.moreFragments then do
      let identifier ← nextId id response
      return challenge id none (EapTlsPacket.ack.toEapRequest identifier)
    else if !processed.state.isHandshakeComplete engine then
      return .reject
    else
      concludeHandshake engine settings username id response processed.state

/-- The guard of the TLS sessions is kept to the end, and the server is changed
in place while it is held. -/
def continueEapTls (username : String) (id : SessionId) (response : EapPacket) : Action Connection AuthResult :=
  locked .tlsSessions .write (do
    match ← ask (.tlsGet id) with
    | none => return .reject
    | some server =>
      if server.hasPendingFragments then
        sendTlsFragment id response server
      else if server.commitmentSent && server.isHandshakeComplete engine then
        finishEapTlsSuccess engine id server response.identifier
      else
        match EapTlsPacket.fromEapData response.data with
        | .error _ => return .reject
        | .ok packet => feedTls engine settings username id response packet server)

def sendTeapFragment (id : SessionId) (response : EapPacket) (server : TeapServer Connection) :
    Action Connection AuthResult := do
  ask (.teapPut id server.nextOutgoingFragment.2)
  match server.nextOutgoingFragment.1 with
  | none => return .reject
  | some fragment => do
    let identifier ← nextId id response
    return challenge id none (teapRequest fragment identifier)

def finishTeap (id : SessionId) (response : EapPacket) (server : TeapServer Connection) :
    Action Connection AuthResult := do
  ask (.note (.released id server))
  match server.getMsk hmacs with
  | none => return .reject
  | some msk => do
    let _ ← locked .sessionManager .write (ask (.updateSession id .succeed))
    match eapToRadiusAttributes (.success response.identifier) with
    | .ok attributes => return .accept attributes (some msk)
    | .error _ => return .reject

def feedTeap (id : SessionId) (response : EapPacket) (packet : TeapPacket) (server : TeapServer Connection) :
    Action Connection AuthResult := do
  let random ← ask .drawNonce
  ask (.note (.fed id))
  let processed := (EapTeapServer.processClientMessage engine hmacs basicPasswordAuth ⟨packet, random⟩).run server
  ask (.teapPut id processed.state)
  match processed.result with
  | .error _ => return .reject
  | .ok (some tlsData) =>
    sendTeapFragment id response (processed.state.queueOutgoingTls tlsData settings.maxFragmentSize)
  | .ok none =>
    if packet.tls.flags.moreFragments then do
      let identifier ← nextId id response
      return challenge id none (teapRequest .ack identifier)
    else if !processed.state.isComplete then
      return .reject
    else
      finishTeap hmacs id response processed.state

def continueEapTeap (id : SessionId) (response : EapPacket) : Action Connection AuthResult :=
  locked .teapSessions .write (do
    match ← ask (.teapGet id) with
    | none => return .reject
    | some server =>
      match TeapPacket.fromEapData response.data with
      | .error _ => return .reject
      | .ok packet =>
        if server.hasPendingFragments then
          -- only an acknowledgement may come while fragments are pending
          if !packet.tls.tlsData.isEmpty || packet.tls.flags.moreFragments then return .reject
          else sendTeapFragment id response server
        else
          feedTeap engine hmacs settings id response packet server)

def beginConversation (arrival : Arrival) : Action Connection AuthResult := do
  match ← startSession arrival.origin with
  | none => return .reject
  | some id => do
    let result ← handleIdentity settings arrival.username id
    finish id result

def beginAfterIdentity (arrival : Arrival) (response : EapPacket) : Action Connection AuthResult := do
  match ← startSession arrival.origin with
  | none => return .reject
  | some id => do
    let _ ← locked .sessionManager .write (ask (.updateSession id (.seed response.identifier)))
    let result ← handleIdentity settings arrival.username id
    finish id result

def continueMethod (username : String) (id : SessionId) (response : EapPacket) : Action Connection AuthResult :=
  match response.eapType with
  | some .tls => continueEapTls engine settings username id response
  | some .teap => continueEapTeap engine hmacs settings id response
  | some .nak => handleNak settings username id response
  | _ => return .reject

def continueConversation (arrival : Arrival) (response : EapPacket) : Action Connection AuthResult := do
  match sessionIdForState arrival.state with
  | none => return .reject
  | some id => do
    match ← locked .sessionManager .write (ask (.claimResponse id arrival response.identifier)) with
    | .claimed => do
      let result ← continueMethod engine hmacs settings arrival.username id response
      finish id result
    | .unknownSession => return .reject
    | .bindingMismatch => return .reject
    | .identifierMismatch => return .discard

def authenticateEap (arrival : Arrival) : Action Connection AuthResult := do
  let _ ← reapIdleAt (← ask .now)
  if arrival.eapData.isEmpty then
    beginConversation settings arrival
  else
    match EapPacket.fromBytes arrival.eapData with
    | .error _ => return .reject
    | .ok packet =>
      if packet.code ≠ .response then return .reject
      else if packet.eapType = some .identity then beginAfterIdentity settings arrival packet
      else continueConversation engine hmacs settings arrival packet

end Methods

end EapAuthHandler

namespace World

variable {Connection : Type}

def initial (timeout maxSessions : Nat) : World Connection where
  manager := .withConfig timeout maxSessions
  tlsSessions := ∅
  teapSessions := ∅
  locks := .unlocked
  journal := []

def record (event : Event Connection) (world : World Connection) : World Connection :=
  { world with journal := event :: world.journal }

def drew (state : Block stateLength) (world : World Connection) : Bool :=
  world.journal.any fun event =>
    match event with
    | .drawn other => other == state
    | _ => false

/-- The random source may fail, and it gives no State twice. -/
def drawState (offered : Option (Block stateLength)) (world : World Connection) :
    Option (Block stateLength) × World Connection :=
  match offered with
  | none => (none, world)
  | some state => if world.drew state then (none, world) else (some state, world.record (.drawn state))

theorem drawState_cases {world after : World Connection} {offered drawn : Option (Block stateLength)}
    (answered : (drawn, after) = world.drawState offered) :
    (drawn = none ∧ after = world) ∨
      ∃ state, drawn = some state ∧ .drawn state ∉ world.journal ∧ after = world.record (.drawn state) := by
  unfold drawState at answered
  split at answered
  · cases answered
    exact .inl ⟨rfl, rfl⟩
  · split at answered
    · cases answered
      exact .inl ⟨rfl, rfl⟩
    · rename_i state unseen
      cases answered
      refine .inr ⟨state, rfl, fun seen => unseen ?_, rfl⟩
      exact List.any_eq_true.mpr ⟨_, seen, by simp⟩

def createSession (id : SessionId) (origin : Origin) (now : Nat) (world : World Connection) : World Connection :=
  { world with
    manager := (world.manager.createSession id now).modify id fun session =>
      { session with peerBinding := origin.encode }
    journal := .started id origin :: world.journal }

def updateSession (id : SessionId) (change : SessionChange) (now : Nat) (world : World Connection) :
    Bool × World Connection :=
  match world.manager.sessions.lookup id with
  | none => (false, world)
  | some _ =>
    (true, { world with
      manager := world.manager.getSessionMut id now (change.apply now)
      journal := change.events id ++ world.journal })

def nextIdentifier (id : SessionId) (now : Nat) (world : World Connection) : Option UInt8 × World Connection :=
  match world.manager.sessions.lookup id with
  | none => (none, world)
  | some session =>
    (some session.currentIdentifier, { world with
      manager := world.manager.getSessionMut id now fun session => (session.nextIdentifier now).2
      journal := .issued id session.currentIdentifier :: world.journal })

def claimResponse (id : SessionId) (arrival : Arrival) (identifier : UInt8) (world : World Connection) :
    ResponseClaim × World Connection :=
  match world.manager.claimResponse id (conversationBinding arrival.request arrival.client) identifier with
  | (.claimed, manager) => (.claimed, { world with manager, journal := .claimed id arrival identifier :: world.journal })
  | (refused, manager) => (refused, { world with manager })

def tlsRemove (ids : List SessionId) (world : World Connection) : World Connection :=
  { world with tlsSessions := ids.foldl (fun sessions id => sessions.erase id) world.tlsSessions }

def teapRemove (ids : List SessionId) (world : World Connection) : World Connection :=
  { world with teapSessions := ids.foldl (fun sessions id => sessions.erase id) world.teapSessions }

end World

namespace EapAuthHandler

variable {Connection : Type} {world : World Connection}

/-- What an operation may answer and do. The clock, the nonces, the password
store and the opening of connections answer anything. -/
def Performs : Program.Semantics (Effect Connection) (World Connection)
  | _, .acquire lock mode, world, _, after =>
    world.locks.free lock mode = true ∧ after = { world with locks := world.locks.acquire lock mode }
  | _, .release lock mode, world, _, after => after = { world with locks := world.locks.release lock mode }
  | _, .now, world, _, after => after = world
  | _, .drawState, world, state, after => ∃ offered, (state, after) = world.drawState offered
  | _, .drawNonce, world, _, after => after = world
  | _, .openConnection _, world, _, after => after = world
  | _, .getUserPassword _, world, _, after => after = world
  | _, .evictIdleAt now, world, evicted, after =>
    evicted = (world.manager.evictIdleAt now).1 ∧ after = { world with manager := (world.manager.evictIdleAt now).2 }
  | _, .evictAt now, world, evicted, after =>
    evicted = (world.manager.evictAt now).1 ∧ after = { world with manager := (world.manager.evictAt now).2 }
  | _, .sessionCount, world, count, after => count = world.manager.sessionCount ∧ after = world
  | _, .createSession id origin, world, _, after => ∃ now, after = world.createSession id origin now
  | _, .getSession id, world, session, after => session = world.manager.getSession id ∧ after = world
  | _, .updateSession id change, world, found, after => ∃ now, (found, after) = world.updateSession id change now
  | _, .nextIdentifier id, world, identifier, after => ∃ now, (identifier, after) = world.nextIdentifier id now
  | _, .claimResponse id arrival identifier, world, claim, after =>
    (claim, after) = world.claimResponse id arrival identifier
  | _, .removeSession id, world, _, after => after = { world with manager := world.manager.removeSession id }
  | _, .tlsGet id, world, server, after => server = world.tlsSessions.lookup id ∧ after = world
  | _, .tlsPut id server, world, _, after => after = { world with tlsSessions := world.tlsSessions.insert id server }
  | _, .tlsRemove ids, world, _, after => after = world.tlsRemove ids
  | _, .teapGet id, world, server, after => server = world.teapSessions.lookup id ∧ after = world
  | _, .teapPut id server, world, _, after =>
    after = { world with teapSessions := world.teapSessions.insert id server }
  | _, .teapRemove ids, world, _, after => after = world.teapRemove ids
  | _, .note event, world, _, after => after = world.record event

/-- One way the surroundings may answer. -/
structure Surroundings (Connection : Type) where
  time : Nat
  state : Option (Block stateLength)
  nonce : Block 32
  opened : Except String Connection
  password : Option String

/-- The outcome of an operation in given surroundings; a lock is taken only when
it is free. -/
def perform (around : Surroundings Connection) : (Answer : Type) → Effect Connection Answer → World Connection →
    Answer × World Connection
  | _, .acquire lock mode, world => ((), { world with locks := world.locks.acquire lock mode })
  | _, .release lock mode, world => ((), { world with locks := world.locks.release lock mode })
  | _, .now, world => (around.time, world)
  | _, .drawState, world => world.drawState around.state
  | _, .drawNonce, world => (around.nonce, world)
  | _, .openConnection _, world => (around.opened, world)
  | _, .getUserPassword _, world => (around.password, world)
  | _, .evictIdleAt now, world =>
    ((world.manager.evictIdleAt now).1, { world with manager := (world.manager.evictIdleAt now).2 })
  | _, .evictAt now, world => ((world.manager.evictAt now).1, { world with manager := (world.manager.evictAt now).2 })
  | _, .sessionCount, world => (world.manager.sessionCount, world)
  | _, .createSession id origin, world => ((), world.createSession id origin around.time)
  | _, .getSession id, world => (world.manager.getSession id, world)
  | _, .updateSession id change, world => world.updateSession id change around.time
  | _, .nextIdentifier id, world => world.nextIdentifier id around.time
  | _, .claimResponse id arrival identifier, world => world.claimResponse id arrival identifier
  | _, .removeSession id, world => ((), { world with manager := world.manager.removeSession id })
  | _, .tlsGet id, world => (world.tlsSessions.lookup id, world)
  | _, .tlsPut id server, world => ((), { world with tlsSessions := world.tlsSessions.insert id server })
  | _, .tlsRemove ids, world => ((), world.tlsRemove ids)
  | _, .teapGet id, world => (world.teapSessions.lookup id, world)
  | _, .teapPut id server, world => ((), { world with teapSessions := world.teapSessions.insert id server })
  | _, .teapRemove ids, world => ((), world.teapRemove ids)
  | _, .note event, world => ((), world.record event)

/-- The effect does not have to wait. -/
def unblocked (world : World Connection) : (Answer : Type) → Effect Connection Answer → Bool
  | _, .acquire lock mode => world.locks.free lock mode
  | _, _ => true

theorem perform_performs (around : Surroundings Connection) (world : World Connection) (Answer : Type)
    (effect : Effect Connection Answer) (goes : unblocked world Answer effect = true) :
    Performs Answer effect world (perform around Answer effect world).1 (perform around Answer effect world).2 := by
  cases effect with
  | acquire lock mode => exact ⟨goes, rfl⟩
  | evictIdleAt now | evictAt now | sessionCount | getSession id | tlsGet id | teapGet id => exact ⟨rfl, rfl⟩
  | drawState => exact ⟨around.state, rfl⟩
  | createSession id origin | updateSession id change | nextIdentifier id => exact ⟨around.time, rfl⟩
  | _ => rfl

/-- The part of the world that an effect may change; any effect may add to the
journal. -/
inductive Part where
  | nothing
  | locks
  | sessions
  | tls
  | teap
deriving DecidableEq

def Effect.part : (Answer : Type) → Effect Connection Answer → Part
  | _, .acquire _ _ | _, .release _ _ => .locks
  | _, .evictIdleAt _ | _, .evictAt _ | _, .createSession _ _ | _, .updateSession _ _ | _, .nextIdentifier _
  | _, .claimResponse _ _ _ | _, .removeSession _ => .sessions
  | _, .tlsPut _ _ | _, .tlsRemove _ => .tls
  | _, .teapPut _ _ | _, .teapRemove _ => .teap
  | _, _ => .nothing

structure Unchanged (part : Part) (world after : World Connection) : Prop where
  locks : part ≠ .locks → after.locks = world.locks
  manager : part ≠ .sessions → after.manager = world.manager
  tls : part ≠ .tls → after.tlsSessions = world.tlsSessions
  teap : part ≠ .teap → after.teapSessions = world.teapSessions
  journal : world.journal <:+ after.journal

theorem Unchanged.refl (part : Part) (world : World Connection) : Unchanged part world world :=
  ⟨fun _ => rfl, fun _ => rfl, fun _ => rfl, fun _ => rfl, List.suffix_rfl⟩

theorem Unchanged.sessions (manager : EapSessionManager) {journal : List (Event Connection)}
    (grows : world.journal <:+ journal) : Unchanged .sessions world { world with manager, journal } :=
  ⟨fun _ => rfl, fun other => absurd rfl other, fun _ => rfl, fun _ => rfl, grows⟩

theorem unchanged {Answer : Type} {effect : Effect Connection Answer} {after : World Connection} {answer : Answer}
    (performed : Performs Answer effect world answer after) : Unchanged (Effect.part Answer effect) world after := by
  cases effect with
  | acquire lock mode =>
    obtain ⟨_, rfl⟩ := performed
    exact ⟨fun other => absurd rfl other, fun _ => rfl, fun _ => rfl, fun _ => rfl, List.suffix_rfl⟩
  | release lock mode =>
    cases performed
    exact ⟨fun other => absurd rfl other, fun _ => rfl, fun _ => rfl, fun _ => rfl, List.suffix_rfl⟩
  | tlsPut id server | tlsRemove ids =>
    cases performed
    exact ⟨fun _ => rfl, fun _ => rfl, fun other => absurd rfl other, fun _ => rfl, List.suffix_rfl⟩
  | teapPut id server | teapRemove ids =>
    cases performed
    exact ⟨fun _ => rfl, fun _ => rfl, fun _ => rfl, fun other => absurd rfl other, List.suffix_rfl⟩
  | note event =>
    cases performed
    exact ⟨fun _ => rfl, fun _ => rfl, fun _ => rfl, fun _ => rfl, List.suffix_cons _ _⟩
  | drawState =>
    obtain ⟨offered, drawn⟩ := performed
    rcases World.drawState_cases drawn with ⟨_, rfl⟩ | ⟨_, _, _, rfl⟩
    · exact .refl _ _
    · exact ⟨fun _ => rfl, fun _ => rfl, fun _ => rfl, fun _ => rfl, List.suffix_cons _ _⟩
  | createSession id origin =>
    obtain ⟨now, rfl⟩ := performed
    exact .sessions _ (List.suffix_cons _ _)
  | updateSession id change =>
    obtain ⟨now, updated⟩ := performed
    unfold World.updateSession at updated
    split at updated <;> cases updated
    · exact .refl _ _
    · exact .sessions _ (List.suffix_append _ _)
  | nextIdentifier id =>
    obtain ⟨now, issued⟩ := performed
    unfold World.nextIdentifier at issued
    split at issued <;> cases issued
    · exact .refl _ _
    · exact .sessions _ (List.suffix_cons _ _)
  | claimResponse id arrival identifier =>
    simp only [Performs, World.claimResponse] at performed
    split at performed <;> cases performed
    · exact .sessions _ (List.suffix_cons _ _)
    · exact .sessions _ List.suffix_rfl
  | removeSession id =>
    cases performed
    exact .sessions _ List.suffix_rfl
  | evictIdleAt now | evictAt now => exact performed.2 ▸ .sessions _ List.suffix_rfl
  | sessionCount | getSession id | tlsGet id | teapGet id => exact performed.2 ▸ .refl _ _
  | _ =>
    cases performed
    exact .refl _ _

/-- The session is found with the value afterwards, and the events are seen. -/
structure Sets (id : SessionId) (session : EapSession) (events : List (Event Connection)) (world after : World Connection) :
    Prop where
  own : after.manager.sessions.lookup id = some session
  others : ∀ other, other ≠ id → after.manager.sessions.lookup other = world.manager.sessions.lookup other
  limit : after.manager.maxSessions = world.manager.maxSessions
  journal : after.journal = events ++ world.journal
  tls : after.tlsSessions = world.tlsSessions
  teap : after.teapSessions = world.teapSessions

section Sessions

variable {world after : World Connection} {id : SessionId} {session : EapSession}

theorem createSession_sets {origin : Origin} {answer : Unit}
    (performed : Performs Unit (.createSession id origin) world answer after) :
    ∃ session, Sets id session [.started id origin] world after ∧ session.peerBinding = origin.encode ∧
      session.outstandingIdentifier = none ∧ session.eapMethod = none := by
  obtain ⟨now, rfl⟩ := performed
  refine ⟨{ EapSession.updateActivity now { EapSession.new id now with lruSeq := world.manager.nextSeq } with
    peerBinding := origin.encode }, ⟨?_, fun other different => ?_, ?_, rfl, rfl, rfl⟩, rfl, rfl, rfl⟩
  · simp only [World.createSession, EapSessionManager.modify_lookup, EapSessionManager.createSession_lookup, if_pos,
      Option.map_some]
  · simp only [World.createSession, EapSessionManager.modify_lookup, EapSessionManager.createSession_lookup,
      if_neg different]
  · exact (EapSessionManager.modify_limit _ _ _).trans (EapSessionManager.touch_limit _ _ _)

theorem sets_getSessionMut {now : Nat} {events : List (Event Connection)} (change : EapSession → EapSession)
    (found : world.manager.sessions.lookup id = some session) :
    Sets id (change (EapSession.updateActivity now { session with lruSeq := world.manager.nextSeq })) events world
      { world with manager := world.manager.getSessionMut id now change, journal := events ++ world.journal } where
  own := by
    rw [EapSessionManager.getSessionMut_lookup, if_pos rfl, found]
    rfl
  others := fun other different => by rw [EapSessionManager.getSessionMut_lookup, if_neg different]
  limit := (EapSessionManager.modify_limit _ _ _).trans (EapSessionManager.touch_limit _ _ _)
  journal := rfl
  tls := rfl
  teap := rfl

theorem updateSession_cases {change : SessionChange} {found : Bool}
    (performed : Performs Bool (.updateSession id change) world found after) :
    (found = false ∧ world.manager.sessions.lookup id = none ∧ after = world) ∨
      ∃ now session, found = true ∧ world.manager.sessions.lookup id = some session ∧
        Sets id (change.apply now (EapSession.updateActivity now { session with lruSeq := world.manager.nextSeq }))
          (change.events id) world after := by
  obtain ⟨now, updated⟩ := performed
  unfold World.updateSession at updated
  split at updated <;> cases updated
  · exact .inl ⟨rfl, by assumption, rfl⟩
  · exact .inr ⟨now, _, rfl, by assumption, sets_getSessionMut (change.apply now) (by assumption)⟩

theorem nextIdentifier_cases {drawn : Option UInt8}
    (performed : Performs (Option UInt8) (.nextIdentifier id) world drawn after) :
    (drawn = none ∧ world.manager.sessions.lookup id = none ∧ after = world) ∨
      ∃ now session, drawn = some session.currentIdentifier ∧ world.manager.sessions.lookup id = some session ∧
        Sets id (EapSession.nextIdentifier now
            (EapSession.updateActivity now { session with lruSeq := world.manager.nextSeq })).2
          [.issued id session.currentIdentifier] world after := by
  obtain ⟨now, issued⟩ := performed
  unfold World.nextIdentifier at issued
  split at issued <;> cases issued
  · exact .inl ⟨rfl, by assumption, rfl⟩
  · exact .inr ⟨now, _, rfl, by assumption, sets_getSessionMut (fun session => (session.nextIdentifier now).2)
      (by assumption)⟩

/-- A Response is claimed when it comes from the peer the session is bound to and
answers the outstanding Request; otherwise nothing changes. -/
theorem claimResponse_cases {arrival : Arrival} {identifier : UInt8} {claim : ResponseClaim}
    (performed : Performs ResponseClaim (.claimResponse id arrival identifier) world claim after) :
    (claim ≠ .claimed ∧ after = world) ∨
      ∃ session, claim = .claimed ∧ world.manager.sessions.lookup id = some session ∧
        session.peerBinding = arrival.origin.encode ∧ session.outstandingIdentifier = some identifier ∧
        Sets id { session with outstandingIdentifier := none } [.claimed id arrival identifier] world after := by
  simp only [Performs, World.claimResponse, EapSessionManager.claimResponse] at performed
  cases found : world.manager.sessions.lookup id with
  | none =>
    simp only [found] at performed
    cases performed
    exact .inl ⟨by decide, rfl⟩
  | some session =>
    by_cases bound : session.peerBinding = conversationBinding arrival.request arrival.client
    · by_cases answers : session.outstandingIdentifier = some identifier
      · simp only [found, bound, answers, ne_eq, not_true, if_false] at performed
        cases performed
        refine .inr ⟨session, rfl, rfl, bound, answers, ?_, fun other different => ?_, ?_, rfl, rfl, rfl⟩
        · rw [EapSessionManager.modify_lookup, if_pos rfl, found]
          rfl
        · rw [EapSessionManager.modify_lookup, if_neg different]
        · exact EapSessionManager.modify_limit _ _ _
      · simp only [found, bound, answers, ne_eq, not_true, not_false_eq_true, if_true, if_false] at performed
        cases performed
        exact .inl ⟨by decide, rfl⟩
    · simp only [found, bound, ne_eq, not_false_eq_true, if_true] at performed
      cases performed
      exact .inl ⟨by decide, rfl⟩

theorem Sets.live {earlier : EapSession} {events : List (Event Connection)} (sets : Sets id session events world after)
    (found : world.manager.sessions.lookup id = some earlier) (other : SessionId) :
    after.manager.sessions.lookup other = none ↔ world.manager.sessions.lookup other = none := by
  by_cases same : other = id
  · rw [same, sets.own, found]
    simp
  · rw [sets.others other same]

end Sessions

/-- Calls of `authenticate_eap`, and the reaper run from outside. -/
inductive Task where
  | authenticate (arrival : Arrival)
  | reap (now : Nat)
  | reapIdle (now : Nat)

def handlerTasks (engine : TlsEngine Connection) (hmacs : Hmacs) (settings : Settings) :
    System (Effect Connection) Empty Task (World Connection) where
  start
    | .authenticate arrival => do
      let result ← authenticateEap engine hmacs settings arrival
      ask (.note (.answered arrival result))
    | .reap now => do
      let _ ← reapAt now
      return ()
    | .reapIdle now => do
      let _ ← reapIdleAt now
      return ()
  mayStart := fun _ _ => true
  step := Performs

end EapAuthHandler

end Eap

end UsgRadius
