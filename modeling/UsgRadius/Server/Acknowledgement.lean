import UsgRadius.Server.Accounting

namespace UsgRadius.Server

open Data Program Auth Packet

/-! Retransmitted Accounting-Requests, with the in-memory handler. -/

/-- What the handler keeps, and the calls it has had with their results, latest first. -/
structure Accounts where
  sessions : Sessions
  handled : List (AccountingCall × Except AccountingError AccountingResult)

def SimpleAccountingHandler.atTime (handler : SimpleAccountingHandler) (now : Nat) : AccountingHandler Accounts where
  account call before result after :=
    result = (handler.record now call before.sessions).1 ∧
      after = ⟨(handler.record now call before.sessions).2, (call, result) :: before.handled⟩

/-- The monotonic clock of the duplicate cache, and the seconds of the handler. -/
structure Moment where
  instant : Nat
  seconds : Nat

/-- A server with the in-memory handler. -/
structure AccountingServer (AuthState PoolState : Type) where
  config : ServerConfig
  authHandler : AuthHandler AuthState
  router : Router PoolState
  accountingHandler : SimpleAccountingHandler

namespace AccountingServer

variable {AuthState PoolState : Type} (server : AccountingServer AuthState PoolState)

def parts (moment : Moment) : Parts AuthState PoolState Accounts where
  authHandler := server.authHandler
  router := server.router
  accountingHandler := server.accountingHandler.atTime moment.seconds

/-- What an operation may answer and do at a time. -/
def PerformsAt (moment : Moment) : Program.Semantics Effect (World AuthState PoolState Accounts)
  | _, .admitRequest fingerprint source digest, world, admission, after => ∃ victim cache,
      (admission, cache) = world.requestCache.admitRequest moment.instant victim fingerprint source digest ∧
        after = { world with requestCache := cache }
  | Answer, effect, world, answer, after => Performs server.config (server.parts moment) Answer effect world answer after

end AccountingServer

/-! ## The pipeline for an Accounting-Request -/

section Pipeline

variable {server : ServerConfig} {request : Packet} {secret data : Octets} {role : PortRole} {source : SocketAddr}
  {received : Received}

def accountingResponse (request : Packet) : Packet where
  code := .accountingResponse
  identifier := request.identifier
  authenticator := .zero 16
  attributes := proxyStates request

def accountingReply (digests : Digests) (request : Packet) (secret : Octets) : Packet :=
  { accountingResponse request with
    authenticator := responseDigest digests (accountingResponse request) request.authenticator secret }

theorem accountingReply_encodable (digests : Digests) (secret : Octets) (encodable : request.Encodable) :
    (accountingReply digests request secret).Encodable where
  fits attr member := encodable.fits attr (proxyStates_type member).1
  small := by
    have fewer : ((proxyStates request).map Attribute.encodedLength).sum ≤
        (request.attributes.map Attribute.encodedLength).sum :=
      (List.filter_sublist.map _).sum_le_sum fun _ _ => Nat.zero_le _
    have small := encodable.small
    simp only [length] at small
    simp only [length, accountingReply, accountingResponse]
    omega

theorem finishAccounting_eq (digests : Digests) (secret : Octets) (encodable : request.Encodable) :
    finishAccounting digests request (.new .accountingResponse request.identifier (.zero 16)) secret =
      .ok (accountingReply digests request secret) := by
  have copied : copyProxyState request (.new .accountingResponse request.identifier (.zero 16)) =
      accountingResponse request := by
    simp [copyProxyState, new, accountingResponse]
  have fits : ∀ attr ∈ (accountingResponse request).attributes, attr.Fits := fun attr member =>
    encodable.fits attr (proxyStates_type member).1
  rw [finishAccounting, finish, copied]
  simp only [liftError_ok, Results.ok_bind, calculateResponseAuthenticator_of_fits _ _ fits]
  rfl

def acknowledge (server : ServerConfig) (request : Packet) (secret : Octets) :
    Except AccountingError AccountingResult → Except Fault (Option Octets)
  | .ok _ => .ok (some (accountingReply server.digests request secret).bytes)
  | .error reason => .error (.error (.accounting reason))

def accountNew (server : ServerConfig) (request : Packet) (source : SocketAddr) (secret : Octets) :
    Action (Option Octets) :=
  match accountingCall server request source.ip with
  | .error reason => .done (.error (.error reason))
  | .ok call => .perform (.account call) fun handled => .done (acknowledge server request secret handled)

theorem processNew_accounting (fingerprint : RequestFingerprint) (digest : Block 32)
    (isAccounting : received.request.code = .accountingRequest) (encodable : received.request.Encodable) :
    processNew server received source secret fingerprint digest = accountNew server received.request source secret := by
  have encoded : (accountingReply server.digests received.request secret).encode =
      .ok (accountingReply server.digests received.request secret).bytes :=
    encode_eq_ok.mpr ⟨accountingReply_encodable _ _ encodable, rfl⟩
  have unkept (reply : Octets) : keepReply received.request fingerprint digest reply = pure () := by
    rw [keepReply, if_neg (by rw [isAccounting]; exact Code.noConfusion)]
  simp only [processNew, dispatch, isAccounting, handleAccountingRequest, accountNew,
    finishAccounting_eq _ _ encodable]
  cases accountingCall server received.request source.ip with
  | error reason => rfl
  | ok call =>
    refine congrArg (Program.perform (Effect.account call)) (funext fun handled => ?_)
    cases handled with
    | error reason => rfl
    | ok result =>
      show (check (liftError (liftPacket (accountingReply server.digests received.request secret).encode)) >>= fun
        reply => keepReply received.request fingerprint digest reply >>= fun _ => pure (some reply)) = _
      rw [encoded]
      simp only [unkept]
      rfl

theorem processReceived_accounting (isAccounting : received.request.code = .accountingRequest)
    (encodable : received.request.Encodable) :
    processReceived server received data source secret =
      .perform (.admitRequest (.new source.ip received.request.identifier received.request.authenticator) source
        (requestDigest server.sha256 secret data)) fun admission =>
          if admission = .new then accountNew server received.request source secret
          else .done (.error (.error .duplicateRequest)) := by
  refine congrArg (Program.perform _) (funext fun admission => ?_)
  cases admission with
  | new => exact processNew_accounting _ _ isAccounting encodable
  | replay reply =>
    show (if received.request.code = .accessRequest then _ else _) = _
    rw [if_neg (by rw [isAccounting]; exact Code.noConfusion)]
    rfl
  | inProgress | conflict => rfl

end Pipeline

/-! ## One request and its retransmission -/

namespace AccountingServer

section Retransmission

variable {AuthState PoolState : Type} {server : AccountingServer AuthState PoolState} {request : Packet}
  {data secret : Octets} {source : SocketAddr} {role : PortRole} {moment : Moment}
  {before after : World AuthState PoolState Accounts} {outcome : Except Fault (Option Octets)} {call : AccountingCall}

def accounted (server : AccountingServer AuthState PoolState) (moment : Moment) (call : AccountingCall)
    (accounts : Accounts) : Accounts where
  sessions := (server.accountingHandler.record moment.seconds call accounts.sessions).2
  handled := (call, (server.accountingHandler.record moment.seconds call accounts.sessions).1) :: accounts.handled

def fingerprint (request : Packet) (source : SocketAddr) : RequestFingerprint :=
  .new source.ip request.identifier request.authenticator

def admission (server : AccountingServer AuthState PoolState) (moment : Moment) (victim : Option RequestFingerprint)
    (request : Packet) (data : Octets) (source : SocketAddr) (secret : Octets) (requests : RequestCache) :
    Admission × RequestCache :=
  requests.admitRequest moment.instant victim (fingerprint request source) source
    (requestDigest server.config.sha256 secret data)

/-- What comes of an Accounting-Request that gets to the duplicate cache, when
the iterator over the cache would start at `victim`. -/
def respond (server : AccountingServer AuthState PoolState) (moment : Moment) (victim : Option RequestFingerprint)
    (request : Packet) (data : Octets) (source : SocketAddr) (secret : Octets)
    (before : World AuthState PoolState Accounts) :
    Except Fault (Option Octets) × World AuthState PoolState Accounts :=
  let admitted := server.admission moment victim request data source secret before.requestCache
  let after := { before with requestCache := admitted.2 }
  if admitted.1 = .new then
    match accountingCall server.config request source.ip with
    | .error reason => (.error (.error reason), after)
    | .ok call =>
      (acknowledge server.config request secret
          (server.accountingHandler.record moment.seconds call before.accountingSessions.sessions).1,
        { after with accountingSessions := server.accounted moment call before.accountingSessions })
  else
    (.error (.error .duplicateRequest), after)

section Rules

variable {victim : Option RequestFingerprint}

theorem respond_known (known : (server.admission moment victim request data source secret before.requestCache).1 ≠ .new) :
    server.respond moment victim request data source secret before =
      (.error (.error .duplicateRequest),
        { before with
          requestCache := (server.admission moment victim request data source secret before.requestCache).2 }) :=
  if_neg known

theorem respond_invalid {reason : ServerError}
    (new : (server.admission moment victim request data source secret before.requestCache).1 = .new)
    (refused : accountingCall server.config request source.ip = .error reason) :
    server.respond moment victim request data source secret before =
      (.error (.error reason),
        { before with
          requestCache := (server.admission moment victim request data source secret before.requestCache).2 }) := by
  simp only [respond, if_pos new, refused]

theorem respond_accounted
    (new : (server.admission moment victim request data source secret before.requestCache).1 = .new)
    (called : accountingCall server.config request source.ip = .ok call) :
    server.respond moment victim request data source secret before =
      (acknowledge server.config request secret
          (server.accountingHandler.record moment.seconds call before.accountingSessions.sessions).1,
        { before with
          requestCache := (server.admission moment victim request data source secret before.requestCache).2
          accountingSessions := server.accounted moment call before.accountingSessions }) := by
  simp only [respond, if_pos new, called]

end Rules

variable {received : Received}

theorem runs_iff_responds (isAccounting : received.request.code = .accountingRequest)
    (encodable : received.request.Encodable) :
    Runs (server.PerformsAt moment) (processReceived server.config received data source secret) before outcome after ↔
      ∃ victim, (outcome, after) = server.respond moment victim received.request data source secret before := by
  have admits (victim : Option RequestFingerprint) : server.PerformsAt moment _ (.admitRequest
      (.new source.ip received.request.identifier received.request.authenticator) source
      (requestDigest server.config.sha256 secret data)) before
      (server.admission moment victim received.request data source secret before.requestCache).1
      { before with
        requestCache := (server.admission moment victim received.request data source secret before.requestCache).2 } :=
    ⟨victim, _, rfl, rfl⟩
  rw [processReceived_accounting isAccounting encodable, runs_perform]
  refine ⟨?_, ?_⟩
  · intro ⟨answer, _, ⟨victim, cache, admitted, same⟩, run⟩
    subst same
    obtain rfl : answer = (server.admission moment victim received.request data source secret before.requestCache).1 :=
      congrArg Prod.fst admitted
    obtain rfl : cache = (server.admission moment victim received.request data source secret before.requestCache).2 :=
      congrArg Prod.snd admitted
    refine ⟨victim, ?_⟩
    split at run
    · rename_i new
      unfold accountNew at run
      split at run
      · rename_i refused
        obtain ⟨rfl, rfl⟩ := runs_done.mp run
        exact (respond_invalid new refused).symm
      · rename_i called
        rw [runs_perform] at run
        obtain ⟨result, _, ⟨_, ⟨rfl, rfl⟩, rfl⟩, run⟩ := run
        obtain ⟨rfl, rfl⟩ := runs_done.mp run
        exact (respond_accounted new called).symm
    · rename_i known
      obtain ⟨rfl, rfl⟩ := runs_done.mp run
      exact (respond_known known).symm
  · intro ⟨victim, responded⟩
    refine ⟨_, _, admits victim, ?_⟩
    by_cases new : (server.admission moment victim received.request data source secret before.requestCache).1 = .new
    · rw [if_pos new, accountNew]
      cases called : accountingCall server.config received.request source.ip with
      | error reason =>
        rw [respond_invalid new called] at responded
        cases responded
        exact .done
      | ok call =>
        rw [respond_accounted new called] at responded
        cases responded
        exact .perform ⟨_, ⟨rfl, rfl⟩, rfl⟩ .done
    · rw [if_neg new]
      rw [respond_known new] at responded
      cases responded
      exact .done

theorem run_responds (decoded : decode data = .ok request) (isAccounting : request.code = .accountingRequest)
    (run : Runs (server.PerformsAt moment) (processRequest server.config data source secret role) before outcome after) :
    after = before ∧ (∀ received, receive server.config data secret role ≠ .ok (some received)) ∨
      (∃ received, receive server.config data secret role = .ok (some received)) ∧
        ∃ victim, (outcome, after) = server.respond moment victim request data source secret before := by
  rw [processRequest] at run
  cases passed : receive server.config data secret role with
  | error reason =>
    rw [passed] at run
    exact .inl ⟨(runs_done.mp run).2, fun _ same => by cases same⟩
  | ok received =>
    rw [passed] at run
    cases received with
    | none => exact .inl ⟨(runs_done.mp run).2, fun _ same => by cases same⟩
    | some received =>
      obtain ⟨same, _⟩ := receive_eq_some passed
      cases decoded.symm.trans same
      exact .inr ⟨⟨received, rfl⟩,
        (runs_iff_responds isAccounting (decode_eq_ok.mp decoded).1).mp run⟩

/-- An Accounting-Response to the request is sent. -/
def Acknowledged (request : Packet) (outcome : Except Fault (Option Octets)) : Prop :=
  ∃ bytes reply, outcome = .ok (some bytes) ∧ decode bytes = .ok reply ∧
    reply.code = .accountingResponse ∧ reply.identifier = request.identifier

/-- The duplicate cache has no current entry for the request. -/
def Forgotten (requests : RequestCache) (instant : Nat) (request : Packet) (source : SocketAddr) : Prop :=
  ∀ entry, requests.cache.lookup (fingerprint request source) = some entry → requests.ttl < instant - entry.insertedAt

variable {result : Except AccountingError AccountingResult}

theorem acknowledged_iff (encodable : request.Encodable) :
    Acknowledged request (acknowledge server.config request secret result) ↔ result.isOk = true := by
  cases result with
  | error reason => exact ⟨fun ⟨_, _, impossible, _⟩ => (nomatch impossible), nofun⟩
  | ok recorded =>
    refine ⟨fun _ => rfl, fun _ => ⟨_, accountingReply server.config.digests request secret, rfl, ?_, rfl, rfl⟩⟩
    exact decode_eq_ok.mpr ⟨accountingReply_encodable _ _ encodable, List.prefix_rfl⟩

variable {victim : Option RequestFingerprint}

theorem respond_iff (encodable : request.Encodable) (called : accountingCall server.config request source.ip = .ok call)
    (responded : (outcome, after) = server.respond moment victim request data source secret before) :
    (Acknowledged request outcome ∧
        (∀ sessionId, after.accountingSessions.sessions.lookup sessionId =
          before.accountingSessions.sessions.lookup sessionId) ↔
      Forgotten before.requestCache moment.instant request source ∧
        SimpleAccountingHandler.Moot moment.seconds before.accountingSessions.sessions call) ∧
    ((∃ result, after.accountingSessions.handled = (call, result) :: before.accountingSessions.handled) ↔
      Forgotten before.requestCache moment.instant request source) := by
  have new_iff : (server.admission moment victim request data source secret before.requestCache).1 = .new ↔
      Forgotten before.requestCache moment.instant request source := RequestCache.admitRequest_new_iff
  by_cases new : (server.admission moment victim request data source secret before.requestCache).1 = .new
  · have forgotten := new_iff.mp new
    rw [respond_accounted new called] at responded
    cases responded
    refine ⟨?_, fun _ => forgotten, fun _ => ⟨_, rfl⟩⟩
    rw [acknowledged_iff encodable, ← @SimpleAccountingHandler.moot_iff server.accountingHandler]
    refine ⟨fun ⟨recorded, unchanged⟩ => ⟨forgotten, ?_, unchanged⟩, fun ⟨_, recorded, unchanged⟩ => ⟨?_, unchanged⟩⟩
    · obtain ⟨result, ok⟩ := Results.exists_of_isOk recorded
      rw [ok, SimpleAccountingHandler.record_ok ok]
    · rw [recorded]
      rfl
  · have remembered : ¬ Forgotten before.requestCache moment.instant request source := fun gone => new (new_iff.mpr gone)
    rw [respond_known new] at responded
    cases responded
    refine ⟨⟨fun ⟨⟨_, _, impossible, _⟩, _⟩ => (nomatch impossible), fun both => absurd both.1 remembered⟩,
      ⟨fun ⟨result, grown⟩ => ?_, fun gone => absurd gone remembered⟩⟩
    exact absurd grown.symm (List.cons_ne_self _ _)

theorem respond_told (responded : (outcome, after) = server.respond moment victim request data source secret before)
    (handled : after.accountingSessions.handled = (call, result) :: before.accountingSessions.handled) :
    accountingCall server.config request source.ip = .ok call := by
  by_cases new : (server.admission moment victim request data source secret before.requestCache).1 = .new
  · cases called : accountingCall server.config request source.ip with
    | error reason =>
      rw [respond_invalid new called] at responded
      cases responded
      exact absurd handled.symm (List.cons_ne_self _ _)
    | ok asked =>
      rw [respond_accounted new called] at responded
      cases responded
      cases handled
      rfl
  · rw [respond_known new] at responded
    cases responded
    exact absurd handled.symm (List.cons_ne_self _ _)

theorem run_of_respond (passed : receive server.config data secret role = .ok (some received))
    (isAccounting : received.request.code = .accountingRequest) (victim : Option RequestFingerprint) :
    Runs (server.PerformsAt moment) (processRequest server.config data source secret role) before
      (server.respond moment victim received.request data source secret before).1
      (server.respond moment victim received.request data source secret before).2 := by
  have encodable := (decode_eq_ok.mp (receive_eq_some passed).1).1
  rw [processRequest, passed]
  exact (runs_iff_responds isAccounting encodable).mpr ⟨victim, rfl⟩

end Retransmission

/-- For an Accounting-Request of which the handler was told once, and any later
state of the server: its retransmission is answered without a further effect on
the sessions exactly where the duplicate cache has forgotten the request and the
call is moot, and the handler is told again exactly where the cache has forgotten
the request. -/
theorem retransmission_acknowledged_iff {AuthState PoolState : Type} {server : AccountingServer AuthState PoolState}
    {request : Packet} {data secret : Octets} {source : SocketAddr} {role : PortRole}
    (decoded : decode data = .ok request) (isAccounting : request.code = .accountingRequest)
    {earlier : Moment} {start told : World AuthState PoolState Accounts} {answered : Except Fault (Option Octets)}
    (first : Runs (server.PerformsAt earlier) (processRequest server.config data source secret role) start answered told)
    {call : AccountingCall} {result : Except AccountingError AccountingResult}
    (handled : told.accountingSessions.handled = (call, result) :: start.accountingSessions.handled)
    {later : Moment} {before after : World AuthState PoolState Accounts} {outcome : Except Fault (Option Octets)}
    (again : Runs (server.PerformsAt later) (processRequest server.config data source secret role) before outcome after) :
    (Acknowledged request outcome ∧
        (∀ sessionId, after.accountingSessions.sessions.lookup sessionId =
          before.accountingSessions.sessions.lookup sessionId) ↔
      Forgotten before.requestCache later.instant request source ∧
        SimpleAccountingHandler.Moot later.seconds before.accountingSessions.sessions call) ∧
    ((∃ result, after.accountingSessions.handled = (call, result) :: before.accountingSessions.handled) ↔
      Forgotten before.requestCache later.instant request source) := by
  have encodable := (decode_eq_ok.mp decoded).1
  rcases run_responds decoded isAccounting first with ⟨rfl, _⟩ | ⟨⟨received, passed⟩, victim, responded⟩
  · exact absurd handled.symm (List.cons_ne_self _ _)
  have called := respond_told responded handled
  rcases run_responds decoded isAccounting again with ⟨_, rejected⟩ | ⟨_, _, repeated⟩
  · exact absurd passed (rejected received)
  · exact respond_iff encodable called repeated

def sampleAccounting (status : UInt8) (attributes : List Attribute) : Packet :=
  let unsigned : Packet :=
    { code := .accountingRequest, identifier := 7, authenticator := .zero 16
      attributes := ⟨AttributeType.acctStatusType.asU8, [0, 0, 0, status]⟩ :: attributes }
  { unsigned with
    authenticator := ((calculateAccountingRequestAuthenticator .checksum unsigned [1, 2]).toOption).getD (.zero 16) }

def accountingOn : Packet := sampleAccounting 7 []

def sampleStart : Packet :=
  sampleAccounting 1 [⟨AttributeType.acctSessionId.asU8, [115]⟩, ⟨AttributeType.userName.asU8, [117]⟩]

/-- A server that keeps duplicates for thirty seconds. -/
def sampleAccountingServer : AccountingServer Unit Unit where
  config := sampleServer
  authHandler := ⟨fun _ _ _ _ _ _ => True, fun _ _ _ _ _ _ => True, fun _ _ _ _ => True, fun _ _ _ _ => True,
    fun _ _ _ _ => True⟩
  router := ⟨fun _ _ _ _ => True⟩
  accountingHandler := .new

def sampleWorld : World Unit Unit Accounts where
  requestCache := ⟨∅, 30, 100⟩
  authState := ()
  pools := ()
  proxy := .initial 10
  accountingSessions := ⟨∅, []⟩
  policy := none

/-- The sample server handles a request. -/
def sampleResponse (seconds : Nat) (request : Packet) (before : World Unit Unit Accounts) :
    Except Fault (Option Octets) × World Unit Unit Accounts :=
  sampleAccountingServer.respond ⟨seconds, seconds⟩ none request request.bytes sampleSource [1, 2] before

theorem sampleResponse_runs {request : Packet} (seconds : Nat) (before : World Unit Unit Accounts)
    (encodable : request.Encodable) (isAccounting : request.code = .accountingRequest)
    (passes : ((receive sampleAccountingServer.config request.bytes [1, 2] .any).toOption.bind id).isSome = true) :
    Runs (sampleAccountingServer.PerformsAt ⟨seconds, seconds⟩)
      (processRequest sampleAccountingServer.config request.bytes sampleSource [1, 2] .any) before
      (sampleResponse seconds request before).1 (sampleResponse seconds request before).2 := by
  obtain ⟨received, found⟩ := Option.isSome_iff_exists.mp passes
  obtain ⟨_, accepted, rfl⟩ := Option.bind_eq_some_iff.mp found
  have passed := Results.eq_ok_of_toOption accepted
  obtain rfl : received.request = request := by
    have decoded : decode request.bytes = .ok request := decode_eq_ok.mpr ⟨encodable, List.prefix_rfl⟩
    exact Except.ok.inj ((receive_eq_some passed).1.symm.trans decoded)
  exact run_of_respond passed isAccounting none

/-- An Accounting-On is acknowledged again once the cache has forgotten it. -/
theorem accountingOn_acknowledged :
    ∃ outcome after, Runs (sampleAccountingServer.PerformsAt ⟨31, 31⟩)
        (processRequest sampleAccountingServer.config accountingOn.bytes sampleSource [1, 2] .any)
        (sampleResponse 0 accountingOn sampleWorld).2 outcome after ∧
      Acknowledged accountingOn outcome ∧
      ∀ sessionId, after.accountingSessions.sessions.lookup sessionId = none := by
  have encodable : accountingOn.Encodable := by decide +kernel
  have first := sampleResponse_runs 0 sampleWorld encodable rfl (by decide +kernel)
  have again := sampleResponse_runs 31 (sampleResponse 0 accountingOn sampleWorld).2 encodable rfl (by decide +kernel)
  have handled : (sampleResponse 0 accountingOn sampleWorld).2.accountingSessions.handled =
      [(.handleAccountingOn sampleSource.ip accountingOn, .ok .success)] := by decide +kernel
  have forgotten : Forgotten (sampleResponse 0 accountingOn sampleWorld).2.requestCache 31 accountingOn sampleSource := by
    intro entry found
    have inserted : ((sampleResponse 0 accountingOn sampleWorld).2.requestCache.cache.lookup
        (fingerprint accountingOn sampleSource)).map (·.insertedAt) = some 0 := by decide +kernel
    rw [found, Option.map_some, Option.some.injEq] at inserted
    show 30 < 31 - entry.insertedAt
    omega
  obtain ⟨acknowledged, unchanged⟩ := (retransmission_acknowledged_iff
    (decode_eq_ok.mpr ⟨encodable, List.prefix_rfl⟩) rfl first handled again).1.mpr ⟨forgotten, trivial⟩
  exact ⟨_, _, again, acknowledged, unchanged⟩

def startCall : AccountingCall :=
  .handleStart "s" "u" sampleSource.ip sampleStart

/-- A Start is recorded and acknowledged. Its retransmissions get no answer: within
the TTL the duplicate cache drops them, after it the handler does. -/
theorem sampleStart_unacknowledged :
    ∃ told : World Unit Unit Accounts,
      Runs (sampleAccountingServer.PerformsAt ⟨0, 0⟩)
        (processRequest sampleAccountingServer.config sampleStart.bytes sampleSource [1, 2] .any) sampleWorld
        (.ok (some (accountingReply .checksum sampleStart [1, 2]).bytes)) told ∧
      told.accountingSessions.handled = [(startCall, .ok .success)] ∧
      (∃ after, Runs (sampleAccountingServer.PerformsAt ⟨1, 1⟩)
        (processRequest sampleAccountingServer.config sampleStart.bytes sampleSource [1, 2] .any) told
        (.error (.error .duplicateRequest)) after) ∧
      ∃ after, Runs (sampleAccountingServer.PerformsAt ⟨31, 31⟩)
        (processRequest sampleAccountingServer.config sampleStart.bytes sampleSource [1, 2] .any) told
        (.error (.error (.accounting (.duplicateSession "s")))) after := by
  have encodable : sampleStart.Encodable := by decide +kernel
  have runs (seconds : Nat) (before : World Unit Unit Accounts) :=
    sampleResponse_runs seconds before encodable rfl (by decide +kernel)
  have first := runs 0 sampleWorld
  have soon := runs 1 (sampleResponse 0 sampleStart sampleWorld).2
  have late := runs 31 (sampleResponse 0 sampleStart sampleWorld).2
  have recorded : (sampleResponse 0 sampleStart sampleWorld).1 =
      .ok (some (accountingReply .checksum sampleStart [1, 2]).bytes) := by decide +kernel
  have dropped : (sampleResponse 1 sampleStart (sampleResponse 0 sampleStart sampleWorld).2).1 =
      .error (.error .duplicateRequest) := by decide +kernel
  have refused : (sampleResponse 31 sampleStart (sampleResponse 0 sampleStart sampleWorld).2).1 =
      .error (.error (.accounting (.duplicateSession "s"))) := by decide +kernel
  rw [recorded] at first
  rw [dropped] at soon
  rw [refused] at late
  exact ⟨_, first, by decide +kernel, ⟨_, soon⟩, _, late⟩

end AccountingServer

end UsgRadius.Server
