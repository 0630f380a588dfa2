import UsgRadius.Proxy.Handler
import UsgRadius.Server.Process

namespace UsgRadius.Server

open Data Program Auth Policy Validation Packet

/-- An authentication handler, with whatever state it keeps. -/
structure AuthHandler (State : Type) where
  authenticateChap : String → ChapResponse → Octets → State → Bool → State → Prop
  authenticateRequestFrom : Packet → Octets → IpAddr → State → AuthResult → State → Prop
  getAcceptAttributes : String → State → List Attribute → State → Prop
  getChallengeAttributes : String → State → List Attribute → State → Prop
  getRejectAttributes : String → State → List Attribute → State → Prop

structure AccountingHandler (State : Type) where
  account : AccountingCall → State → Except AccountingError AccountingResult → State → Prop

/-- A router, with the state of its pools. -/
structure Router (State : Type) where
  routeRequest : Packet → State → Option RoutingDecision → State → Prop

/-- The parts of a server that keep state. -/
structure Parts (AuthState PoolState Sessions : Type) where
  authHandler : AuthHandler AuthState
  router : Router PoolState
  accountingHandler : AccountingHandler Sessions

structure World (AuthState PoolState Sessions : Type) where
  requestCache : RequestCache
  /-- With an EAP handler, its sessions. -/
  authState : AuthState
  pools : PoolState
  /-- The proxy cache and its surroundings. -/
  proxy : Proxy.World
  accountingSessions : Sessions
  policy : Option PolicyConfig

section Steps

variable {AuthState PoolState Sessions : Type}

/-- What an operation may answer and do. -/
def Performs (server : ServerConfig) (parts : Parts AuthState PoolState Sessions) :
    Program.Semantics Effect (World AuthState PoolState Sessions)
  | _, .admitRequest fingerprint source digest, world, admission, after => ∃ now victim cache,
      (admission, cache) = world.requestCache.admitRequest now victim fingerprint source digest ∧
        after = { world with requestCache := cache }
  | _, .storeReply fingerprint digest reply, world, _, after =>
    after = { world with requestCache := world.requestCache.storeReply fingerprint digest reply }
  | _, .routeRequest request, world, decision, after => ∃ pools,
      parts.router.routeRequest request world.pools decision pools ∧ after = { world with pools }
  | _, .forwardRequest request source homeServer secret, world, forwarded, after => ∃ outcome proxy,
      Runs (Proxy.Performs True) (Proxy.forwardRequest server.digests request source homeServer secret) world.proxy
        outcome proxy ∧
      (forwarded.isOk ↔ outcome.isOk) ∧ after = { world with proxy }
  | _, .authenticateChap username response challenge, world, passed, after => ∃ authState,
      parts.authHandler.authenticateChap username response challenge world.authState passed authState ∧
        after = { world with authState }
  | _, .authenticateRequestFrom request secret sourceIp, world, result, after => ∃ authState,
      parts.authHandler.authenticateRequestFrom request secret sourceIp world.authState result authState ∧
        after = { world with authState }
  | _, .getAcceptAttributes username, world, attributes, after => ∃ authState,
      parts.authHandler.getAcceptAttributes username world.authState attributes authState ∧
        after = { world with authState }
  | _, .getChallengeAttributes username, world, attributes, after => ∃ authState,
      parts.authHandler.getChallengeAttributes username world.authState attributes authState ∧
        after = { world with authState }
  | _, .getRejectAttributes username, world, attributes, after => ∃ authState,
      parts.authHandler.getRejectAttributes username world.authState attributes authState ∧
        after = { world with authState }
  | _, .readPolicy, world, policy, after => policy = world.policy ∧ after = world
  | _, .drawSalt, world, _, after => after = world
  | _, .account call, world, result, after => ∃ accountingSessions,
      parts.accountingHandler.account call world.accountingSessions result accountingSessions ∧
        after = { world with accountingSessions }

/-- The EAP handler as the server uses it. The other methods only ask the inner
handler, which answers anything. -/
def eapAuthHandler {Connection : Type} (engine : Eap.TlsEngine Connection) (hmacs : Eap.Hmacs) (settings : Eap.Settings) :
    AuthHandler (Eap.World Connection) where
  authenticateChap _ _ _ before _ after := after = before
  authenticateRequestFrom request _ client before result after := ∃ fits,
    Runs Eap.EapAuthHandler.Performs (Eap.EapAuthHandler.authenticateEap engine hmacs settings ⟨request, some client, fits⟩)
      before (.ok result) after
  getAcceptAttributes _ before _ after := after = before
  getChallengeAttributes _ before _ after := after = before
  getRejectAttributes _ before _ after := after = before

end Steps

/-! ## Packets that fail before the duplicate cache -/

/-- A datagram that is no packet, not valid, not for this port, or not authentic. -/
inductive Unauthenticated (server : ServerConfig) (secret : Octets) (role : PortRole) (data : Octets) : Prop
  | undecodable {reason : PacketError} (undecoded : decode data = .error reason)
  | malformed {request : Packet} {reason : ValidationError} (decoded : decode data = .ok request)
      (refused : validatePacket request (validationMode server) = .error reason)
  | misdirected {request : Packet} (decoded : decode data = .ok request)
      (refused : role.admits request.code server.accountingPort.acceptsAccountingOnAuthSocket = false)
  | forgedAccess {request : Packet} (decoded : decode data = .ok request) (isAccess : request.code = .accessRequest)
      (forged : checkMessageAuthenticator server.digests request request.authenticator secret = .ok .invalid)
  | strippedEap {request : Packet} (decoded : decode data = .ok request) (isAccess : request.code = .accessRequest)
      (carriesEap : present request .eapMessage = true)
      (stripped : checkMessageAuthenticator server.digests request request.authenticator secret = .ok .absent)
  | forgedStatus {request : Packet} (decoded : decode data = .ok request) (isStatus : request.code = .statusServer)
      (forged : checkMessageAuthenticator server.digests request request.authenticator secret ≠ .ok .valid)
  | forgedAccounting {request : Packet} (decoded : decode data = .ok request)
      (isAccounting : request.code = .accountingRequest)
      (forged : verifyAccountingRequestAuthenticator server.digests request secret ≠ .ok true)

section Receive

variable {server : ServerConfig} {data secret : Octets} {role : PortRole} {request : Packet} {received : Received}

structure Authentic (server : ServerConfig) (secret : Octets) (role : PortRole) (received : Received) : Prop where
  access : received.request.code = .accessRequest →
    verifyAccessRequestMessageAuthenticator server received.request secret = .ok ()
  status : received.request.code = .statusServer →
    checkMessageAuthenticator server.digests received.request received.request.authenticator secret = .ok .valid ∧
    ∃ reply, received.statusServerReply = some reply ∧
      finishStatus server.digests received.request
        (.new role.statusServerReplyCode received.request.identifier (.zero 16)) secret = .ok reply
  accounting : received.request.code = .accountingRequest →
    verifyAccountingRequestAuthenticator server.digests received.request secret = .ok true

theorem handleStatusServer_eq_some {reply : Packet} (answered : handleStatusServer server request secret role = .ok (some reply)) :
    checkMessageAuthenticator server.digests request request.authenticator secret = .ok .valid ∧
      finishStatus server.digests request (.new role.statusServerReplyCode request.identifier (.zero 16)) secret =
        .ok reply := by
  simp only [handleStatusServer, Results.bind_eq_ok, liftError_eq_ok, liftPacket_eq_ok] at answered
  obtain ⟨checked, checks, answered⟩ := answered
  cases checked with
  | absent | invalid => cases answered
  | valid =>
    simp only [Results.bind_eq_ok, Results.pure_eq, Except.ok.injEq, Option.some.injEq] at answered
    obtain ⟨built, finished, rfl⟩ := answered
    exact ⟨checks, finished⟩

theorem authenticatePacket_eq_some (passed : authenticatePacket server request secret role = .ok (some received)) :
    received.request = request ∧ Authentic server secret role received := by
  unfold authenticatePacket at passed
  split at passed
  · rename_i isAccess
    simp only [Results.bind_eq_ok, liftError_eq_ok, Results.pure_eq, Except.ok.injEq, Option.some.injEq] at passed
    obtain ⟨_, verified, rfl⟩ := passed
    exact ⟨rfl, fun _ => verified, by simp [isAccess], by simp [isAccess]⟩
  · rename_i isStatus
    simp only [Results.bind_eq_ok] at passed
    obtain ⟨reply, handled, passed⟩ := passed
    cases reply with
    | none => cases passed
    | some reply =>
      cases passed
      obtain ⟨checks, finished⟩ := handleStatusServer_eq_some handled
      exact ⟨rfl, by simp [isStatus], fun _ => ⟨checks, reply, rfl, finished⟩, by simp [isStatus]⟩
  · rename_i isAccounting
    simp only [Results.bind_eq_ok, liftPanic_eq_ok] at passed
    obtain ⟨verified, verifies, passed⟩ := passed
    cases verified with
    | false => cases passed
    | true =>
      cases passed
      exact ⟨rfl, by simp [isAccounting], by simp [isAccounting], fun _ => verifies⟩
  · rename_i notAccess notStatus notAccounting
    cases passed
    exact ⟨rfl, fun isAccess => absurd isAccess notAccess, fun isStatus => absurd isStatus notStatus,
      fun isAccounting => absurd isAccounting notAccounting⟩

@[simp] theorem liftValidation_eq_ok {Value : Type} {result : Except ValidationError Value} {value : Value} :
    liftValidation result = .ok value ↔ result = .ok value := by
  cases result <;> simp [liftValidation]

theorem receive_eq_some (passed : receive server data secret role = .ok (some received)) :
    decode data = .ok received.request ∧
    validatePacket received.request (validationMode server) = .ok () ∧
    role.admits received.request.code server.accountingPort.acceptsAccountingOnAuthSocket = true ∧
    Authentic server secret role received := by
  simp only [receive, Results.bind_eq_ok, liftError_eq_ok, liftPacket_eq_ok, liftValidation_eq_ok] at passed
  obtain ⟨request, decoded, _, validated, passed⟩ := passed
  split at passed
  · cases passed
  · rename_i admitted
    obtain ⟨rfl, authentic⟩ := authenticatePacket_eq_some passed
    exact ⟨decoded, validated, by simpa using admitted, authentic⟩

theorem verifyAccess_eq_ok (verified : verifyAccessRequestMessageAuthenticator server request secret = .ok ()) :
    checkMessageAuthenticator server.digests request request.authenticator secret = .ok .valid ∨
      checkMessageAuthenticator server.digests request request.authenticator secret = .ok .absent ∧
        present request .eapMessage = false := by
  simp only [verifyAccessRequestMessageAuthenticator, Results.bind_eq_ok, liftPacket_eq_ok] at verified
  obtain ⟨checked, checks, verified⟩ := verified
  cases checked with
  | valid => exact .inl checks
  | invalid => cases verified
  | absent =>
    cases carriesEap : present request .eapMessage with
    | true => simp [carriesEap] at verified
    | false => exact .inr ⟨checks, rfl⟩

theorem Unauthenticated.not_received (rejected : Unauthenticated server secret role data) :
    receive server data secret role ≠ .ok (some received) := by
  intro passed
  obtain ⟨decoded, validated, admitted, authentic⟩ := receive_eq_some passed
  cases rejected with
  | undecodable undecoded =>
    rw [undecoded] at decoded
    cases decoded
  | malformed same refused =>
    cases same.symm.trans decoded
    rw [validated] at refused
    cases refused
  | misdirected same refused =>
    cases same.symm.trans decoded
    rw [admitted] at refused
    cases refused
  | forgedAccess same isAccess forged =>
    cases same.symm.trans decoded
    rcases verifyAccess_eq_ok (authentic.access isAccess) with valid | ⟨absent, _⟩
    · cases forged.symm.trans valid
    · cases forged.symm.trans absent
  | strippedEap same isAccess carriesEap stripped =>
    cases same.symm.trans decoded
    rcases verifyAccess_eq_ok (authentic.access isAccess) with valid | ⟨_, noEap⟩
    · cases stripped.symm.trans valid
    · rw [carriesEap] at noEap
      cases noEap
  | forgedStatus same isStatus forged =>
    cases same.symm.trans decoded
    exact forged (authentic.status isStatus).1
  | forgedAccounting same isAccounting forged =>
    cases same.symm.trans decoded
    exact forged (authentic.accounting isAccounting)

end Receive

theorem Unauthenticated.ends {server : ServerConfig} {data secret : Octets} {role : PortRole} (source : SocketAddr)
    (rejected : Unauthenticated server secret role data) :
    ∃ outcome, processRequest server data source secret role = .done outcome ∧ ∀ reply, outcome ≠ .ok (some reply) := by
  cases received : receive server data secret role with
  | error reason =>
    refine ⟨.error reason, ?_, nofun⟩
    rw [processRequest, received]
    rfl
  | ok passed =>
    cases passed with
    | some accepted => exact absurd received rejected.not_received
    | none =>
      refine ⟨.ok none, ?_, nofun⟩
      rw [processRequest, received]
      rfl

/-- A packet that fails before the duplicate cache is answered by nothing and
performs no operation, so nothing is forwarded and every part of the server
stays as it was. -/
theorem processRequest_unauthenticated {AuthState PoolState Sessions : Type} (server : ServerConfig)
    (parts : Parts AuthState PoolState Sessions) (data : Octets) (source : SocketAddr) (secret : Octets) (role : PortRole)
    (rejected : Unauthenticated server secret role data) :
    (∃ outcome, processRequest server data source secret role = .done outcome) ∧
    ∀ before outcome after,
      Runs (Performs server parts) (processRequest server data source secret role) before outcome after →
        (∀ reply, outcome ≠ .ok (some reply)) ∧ after = before := by
  obtain ⟨ended, ends, unanswered⟩ := rejected.ends source
  refine ⟨⟨ended, ends⟩, fun before outcome after run => ?_⟩
  rw [ends, runs_done] at run
  obtain ⟨rfl, rfl⟩ := run
  exact ⟨unanswered, rfl⟩

/-- An EAP Access-Request whose Message-Authenticator was taken out. -/
def strippedRequest : Packet where
  code := .accessRequest
  identifier := 7
  authenticator := .fill 16 9
  attributes := [⟨AttributeType.userName.asU8, [98, 111, 98]⟩, ⟨AttributeType.nasIpAddress.asU8, [192, 0, 2, 1]⟩,
    ⟨AttributeType.eapMessage.asU8, [2, 1, 0, 8, 1, 98, 111, 98]⟩]

/-- A server with an EAP handler without methods, no pools and no accounting sessions. -/
def sampleParts : Parts (Eap.World Eap.TlsEngine.PlainConnection) Unit Unit where
  authHandler := eapAuthHandler .plain .checksum ⟨∅, 1000, none⟩
  router := ⟨fun _ _ _ _ => True⟩
  accountingHandler := ⟨fun _ _ _ _ => True⟩

theorem strippedRequest_leavesNoTrace :
    (∃ outcome, processRequest sampleServer strippedRequest.bytes sampleSource [1, 2] .auth = .done outcome) ∧
    ∀ before outcome after,
      Runs (Performs sampleServer sampleParts)
        (processRequest sampleServer strippedRequest.bytes sampleSource [1, 2] .auth) before outcome after →
          (∀ reply, outcome ≠ .ok (some reply)) ∧ after = before := by
  have decoded : decode strippedRequest.bytes = .ok strippedRequest := by decide +kernel
  have stripped : checkMessageAuthenticator sampleServer.digests strippedRequest strippedRequest.authenticator [1, 2] =
      .ok .absent := by decide +kernel
  exact processRequest_unauthenticated sampleServer sampleParts strippedRequest.bytes sampleSource [1, 2] .auth
    (.strippedEap decoded rfl (by decide) stripped)

end UsgRadius.Server
