import UsgRadius.Eap.Handler
import UsgRadius.Server.Replies
import UsgRadius.Server.RequestCache
import UsgRadius.Server.Validation

namespace UsgRadius.Server

open Data Program Auth Policy Validation Attribute

/-! The request pipeline: decode, validate, authenticate, check for duplicates,
dispatch and encode. The duplicate cache, the handlers, the router and the
policy are asked one operation at a time. -/

structure Client where
  address : String
  enabled : Bool
  nasIdentifier : Option String
deriving DecidableEq

structure Config where
  clients : List Client
  strictRfcCompliance : Bool
deriving DecidableEq

inductive AccountingPortMode where
  | shared
  | disabled
deriving DecidableEq

inductive AccountingPort where
  | dedicated (port : UInt16)
  | named (mode : AccountingPortMode)
deriving DecidableEq

def AccountingPort.acceptsAccountingOnAuthSocket (port : AccountingPort) : Bool :=
  port = .named .shared

structure ServerConfig where
  digests : Digests
  sha256 : Octets → Block 32
  texts : Texts
  /-- `Client::matches` for the address of a client; `none` where that does not parse. -/
  networkContains : String → IpAddr → Option Bool
  config : Option Config
  accountingPort : AccountingPort
  hasAccountingHandler : Bool

def Config.findClient (networkContains : String → IpAddr → Option Bool) (config : Config) (sourceIp : IpAddr) :
    Option Client :=
  config.clients.find? fun client =>
    client.enabled && networkContains client.address sourceIp.toCanonical == some true

/-! ## What is asked of the rest of the server -/

inductive RoutingDecision where
  | proxy (homeServer : Proxy.HomeServer) (strippedUsername : Option String)
  | authenticateLocally
  | reject
deriving DecidableEq

structure ChapResponse where
  ident : UInt8
  response : Block 16
deriving DecidableEq

/-- An octet of identifier and sixteen of hash. -/
def ChapResponse.fromBytes (bytes : Octets) : Option ChapResponse :=
  match bytes with
  | [] => none
  | ident :: rest => (Block.ofOctets? 16 rest).map fun response => { ident, response }

inductive AcctStatusType where
  | start
  | stop
  | interimUpdate
  | accountingOn
  | accountingOff
deriving DecidableEq

namespace AcctStatusType

def fromU32 : Nat → Option AcctStatusType
  | 1 => some start
  | 2 => some stop
  | 3 => some interimUpdate
  | 7 => some accountingOn
  | 8 => some accountingOff
  | _ => none

end AcctStatusType

inductive AccountingResult where
  | success
  | failure (reason : String)
deriving DecidableEq

/-- A call of one of the methods of the accounting handler. -/
inductive AccountingCall where
  | handleStart (sessionId username : String) (nasIp : IpAddr) (packet : Packet)
  | handleStop (sessionId username : String) (nasIp : IpAddr) (packet : Packet)
  | handleInterimUpdate (sessionId username : String) (nasIp : IpAddr) (packet : Packet)
  | handleAccountingOn (nasIp : IpAddr) (packet : Packet)
  | handleAccountingOff (nasIp : IpAddr) (packet : Packet)
deriving DecidableEq

inductive Effect : Type → Type
  | admitRequest (fingerprint : RequestFingerprint) (source : SocketAddr) (digest : Block 32) : Effect Admission
  | storeReply (fingerprint : RequestFingerprint) (digest : Block 32) (reply : Octets) : Effect Unit
  /-- `none` where no router or no proxy handler is configured. -/
  | routeRequest (request : Packet) : Effect (Option RoutingDecision)
  /-- The text of the error where the request is not forwarded. -/
  | forwardRequest (request : Packet) (source : SocketAddr) (homeServer : Proxy.HomeServer) (secret : Octets) :
      Effect (Except String Unit)
  | authenticateChap (username : String) (response : ChapResponse) (challenge : Octets) : Effect Bool
  | authenticateRequestFrom (request : Packet) (secret : Octets) (sourceIp : IpAddr) : Effect AuthResult
  | getAcceptAttributes (username : String) : Effect (List Attribute)
  | getChallengeAttributes (username : String) : Effect (List Attribute)
  | getRejectAttributes (username : String) : Effect (List Attribute)
  /-- The policy in force, where one is configured. -/
  | readPolicy : Effect (Option PolicyConfig)
  /-- The random base of the salts. -/
  | drawSalt : Effect UInt16
  | account (call : AccountingCall) : Effect (Except AccountingError AccountingResult)

abbrev Action := Program Effect Fault

variable (server : ServerConfig)

def verifyAccessRequestMessageAuthenticator (request : Packet) (secret : Octets) : Except ServerError Unit := do
  match ← liftPacket (checkMessageAuthenticator server.digests request request.authenticator secret) with
  | .valid => return ()
  | .invalid => throw (.validation "Invalid Message-Authenticator")
  | .absent =>
    if present request .eapMessage then
      throw (.validation "EAP Access-Request missing required Message-Authenticator")
    else
      return ()

/-- `none` where the request is discarded. -/
def handleStatusServer (request : Packet) (secret : Octets) (role : PortRole) : Except Fault (Option Packet) := do
  match ← liftError (liftPacket
      (checkMessageAuthenticator server.digests request request.authenticator secret)) with
  | .valid =>
    let reply ← finishStatus server.digests request
      (.new role.statusServerReplyCode request.identifier (.zero 16)) secret
    return some reply
  | .absent => return none
  | .invalid => return none

/-- A request that may be remembered, and the reply that a Status-Server gets. -/
structure Received where
  request : Packet
  statusServerReply : Option Packet

/-- The authentication of a packet by its code; `none` where it is discarded. -/
def authenticatePacket (request : Packet) (secret : Octets) (role : PortRole) : Except Fault (Option Received) :=
  match request.code with
  | .accessRequest => do
    liftError (verifyAccessRequestMessageAuthenticator server request secret)
    return some ⟨request, none⟩
  | .statusServer => do
    match ← handleStatusServer server request secret role with
    | some reply => return some ⟨request, some reply⟩
    | none => return none
  | .accountingRequest => do
    let verified ← liftPanic (verifyAccountingRequestAuthenticator server.digests request secret)
    if verified then
      return some ⟨request, none⟩
    else
      throw (.error (.validation "Invalid Request Authenticator"))
  | _ => return some ⟨request, none⟩

def validationMode : ValidationMode :=
  if (server.config.map Config.strictRfcCompliance).getD false then .strict else .lenient

def liftValidation {Value : Type} : Except ValidationError Value → Except ServerError Value
  | .ok value => .ok value
  | .error reason => .error (.validation reason.text)

/-- `process_request` up to the duplicate cache; `none` where the packet is discarded. -/
def receive (data secret : Octets) (role : PortRole) : Except Fault (Option Received) := do
  let request ← liftError (liftPacket (Packet.decode data))
  liftError (liftValidation (validatePacket request (validationMode server)))
  if !role.admits request.code server.accountingPort.acceptsAccountingOnAuthSocket then
    return none
  else
    authenticatePacket server request secret role

def forwardedRequest (request : Packet) : Option String → Except ServerError Packet
  | none => .ok request
  | some stripped => do
    let attr ← orAuthFailed (string AttributeType.userName.asU8 stripped)
    return { request with
      attributes := request.attributes.filter (·.attrType ≠ AttributeType.userName.asU8) }.addAttribute attr

/-- Goes on only with a request that is authenticated here. -/
def route (request : Packet) (source : SocketAddr) (secret : Octets) : Action Unit := do
  match ← ask (.routeRequest request) with
  | none => return ()
  | some .authenticateLocally => return ()
  | some .reject => fail (.error .authFailed)
  | some (.proxy homeServer strippedUsername) => do
    let forwarded ← check (liftError (forwardedRequest request strippedUsername))
    match ← ask (.forwardRequest forwarded source homeServer secret) with
    | .error reason => fail (.error (.io s!"Proxy forwarding failed: {reason}"))
    | .ok () =>
      fail (.error (.io "Request forwarded to proxy - response will be sent asynchronously"))

def expectedNasIdentifier (sourceIp : IpAddr) : Option String :=
  (server.config.bind fun config => config.findClient server.networkContains sourceIp).bind Client.nasIdentifier

def checkNas (request : Packet) (sourceIp : IpAddr) : Except ServerError Unit :=
  let nasIdentifier := (request.findAttribute AttributeType.nasIdentifier.asU8).bind asString
  if !present request .nasIpAddress && nasIdentifier.isNone then
    .error (.validation "Access-Request MUST contain either NAS-IP-Address or NAS-Identifier (RFC 2865)")
  else
    match expectedNasIdentifier server sourceIp, nasIdentifier with
    | none, _ => .ok ()
    | some expected, some actual =>
      if actual ≠ expected then
        .error (.validation s!"NAS-Identifier mismatch: expected '{expected}', got '{actual}'")
      else
        .ok ()
    | some expected, none => .error (.validation s!"Missing required NAS-Identifier: expected '{expected}'")

def identify (request : Packet) (sourceIp : IpAddr) : Except ServerError String := do
  match (request.findAttribute AttributeType.userName.asU8).bind asString with
  | none => throw .authFailed
  | some username =>
    checkNas server request sourceIp
    return username

def chapChallenge (request : Packet) : Octets :=
  match request.findAttribute AttributeType.chapChallenge.asU8 with
  | some attr => attr.value
  | none => request.authenticator.octets

def authenticateUser (request : Packet) (username : String) (secret : Octets) (sourceIp : IpAddr) : Action AuthResult :=
  match request.findAttribute AttributeType.chapPassword.asU8 with
  | some attr =>
    match ChapResponse.fromBytes attr.value with
    | none => fail (.error .authFailed)
    | some response => do
      let passed ← ask (.authenticateChap username response (chapChallenge request))
      return if passed then .accept [] none else .reject
  | none => ask (.authenticateRequestFrom request secret sourceIp)

/-- An attribute that is left out where it does not fit. -/
def optional (built : Except PacketError Attribute) : List Attribute :=
  built.toOption.toList

def replyMessage (message : Option String) : List Attribute :=
  match message with
  | none => []
  | some message => optional (string AttributeType.replyMessage.asU8 message)

/-- The value of the first EAP-Message attribute. -/
def firstEapMessage (request : Packet) : Option Octets :=
  (request.findAttribute AttributeType.eapMessage.asU8).map value

def eapMessage (packet : Eap.EapPacket) : List Attribute :=
  optional (new AttributeType.eapMessage.asU8 packet.toBytes)

def policyEapFailure (request : Packet) : List Attribute :=
  match (firstEapMessage request).bind (·[1]?) with
  | none => []
  | some eapId => eapMessage (.failure eapId)

def rejectEapMessage (request : Packet) : List Attribute :=
  match (firstEapMessage request).bind (·[0]?), (firstEapMessage request).bind (·[1]?) with
  | some code, some eapId =>
    if code = Eap.EapCode.request.asU8 then
      eapMessage { code := .response, identifier := eapId, eapType := some .nak, data := [0] }
    else
      eapMessage (.failure eapId)
  | _, _ => []

def policyReject (request : Packet) (decision : Decision) : Packet :=
  addAttributes (.new .accessReject request.identifier (.zero 16))
    (policyEapFailure request ++ replyMessage decision.replyMessage)

def policyAccept (decision : Decision) (response : Packet) : Packet :=
  addAttributes ((decision.attributes.filterMap PolicyEnforce.replyAttribute).foldl addPolicyReplyAttribute response)
    (replyMessage decision.replyMessage)

def decide? (policy : Option PolicyConfig) (request : Packet) (username : String) : Option Decision :=
  match policy with
  | none => none
  | some policy =>
    if policy.policySets.isEmpty then
      none
    else
      some (policy.evaluate server.texts (PolicyEnforce.requestContext server.texts request username))

def enforce (decision : Option Decision) (request response : Packet) : Packet :=
  match decision with
  | none => response
  | some decision =>
    match decision.effect with
    | .reject => policyReject request decision
    | .accept => policyAccept decision response

def keyAttributes (request : Packet) (secret : Octets) : Option Octets → Action (List Attribute)
  | none => return []
  | some msk => do
    let base ← ask .drawSalt
    check (liftError (orAuthFailed (do
      let keys ← MppeKeys.fromMsk msk
      keys.toAttributes server.digests secret request.authenticator base)))

def answerAccept (request : Packet) (username : String) (secret : Octets) (attributes : List Attribute)
    (msk : Option Octets) : Action Packet := do
  let acceptAttributes ← ask (.getAcceptAttributes username)
  let keys ← keyAttributes server request secret msk
  let response := addAttributes (.new .accessAccept request.identifier (.zero 16)) (acceptAttributes ++ attributes ++ keys)
  let policy ← ask .readPolicy
  check (finishAccess server.digests request (enforce (decide? server policy request username) request response) secret)

def challengeMessage : Option String → Except ServerError (List Attribute)
  | none => .ok []
  | some message => do
    let attr ← orAuthFailed (string AttributeType.replyMessage.asU8 message)
    return [attr]

def answerChallenge (request : Packet) (username : String) (secret : Octets) (message : Option String)
    (state : Octets) (attributes : List Attribute) : Action Packet := do
  let stateAttr ← check (liftError (orAuthFailed (new AttributeType.state.asU8 state)))
  let messageAttrs ← check (liftError (challengeMessage message))
  let challengeAttributes ← ask (.getChallengeAttributes username)
  let response := addAttributes (.new .accessChallenge request.identifier (.zero 16))
    (stateAttr :: messageAttrs ++ attributes ++ challengeAttributes)
  check (finishAccess server.digests request response secret)

def answerReject (request : Packet) (username : String) (secret : Octets) : Action Packet := do
  let rejectAttributes ← ask (.getRejectAttributes username)
  let response := addAttributes (.new .accessReject request.identifier (.zero 16))
    (rejectEapMessage request ++ rejectAttributes)
  check (finishAccess server.digests request response secret)

def answer (request : Packet) (username : String) (secret : Octets) : AuthResult → Action Packet
  | .accept attributes msk => answerAccept server request username secret attributes msk
  | .challenge message state attributes => answerChallenge server request username secret message state attributes
  | .discard => fail (.error .discarded)
  | .reject => answerReject server request username secret

def handleAccessRequest (request : Packet) (source : SocketAddr) (secret : Octets) : Action Packet := do
  route request source secret
  let username ← check (liftError (identify server request source.ip))
  let result ← authenticateUser request username secret source.ip
  answer server request username secret result

/-- `as_string` of an attribute that a session must have. -/
def requiredText (request : Packet) (attrType : AttributeType) (missing : String) : Except ServerError String :=
  match (request.findAttribute attrType.asU8).bind asString with
  | some text => .ok text
  | none => .error (.validation missing)

def acctStatusType (request : Packet) : Except ServerError AcctStatusType :=
  match request.findAttribute AttributeType.acctStatusType.asU8 with
  | none => .error (.validation "Missing Acct-Status-Type attribute")
  | some attr =>
    if attr.value.length < 4 then
      .error (.validation "Invalid Acct-Status-Type attribute")
    else
      let value := fromBe (attr.value.take 4)
      match AcctStatusType.fromU32 value with
      | none => .error (.validation s!"Invalid Acct-Status-Type: {value}")
      | some statusType => .ok statusType

/-- The session a request is about. -/
def session (request : Packet) : Except ServerError (String × String) := do
  let sessionId ← requiredText request .acctSessionId "Missing Acct-Session-Id attribute"
  let username ← requiredText request .userName "Missing User-Name attribute"
  return (sessionId, username)

def accountingCall (request : Packet) (sourceIp : IpAddr) : Except ServerError AccountingCall :=
  if !server.hasAccountingHandler then
    .error (.validation "Accounting not enabled")
  else do
    match ← acctStatusType request with
    | .start =>
      let (sessionId, username) ← session request
      return .handleStart sessionId username sourceIp request
    | .stop =>
      let (sessionId, username) ← session request
      return .handleStop sessionId username sourceIp request
    | .interimUpdate =>
      let (sessionId, username) ← session request
      return .handleInterimUpdate sessionId username sourceIp request
    | .accountingOn => return .handleAccountingOn sourceIp request
    | .accountingOff => return .handleAccountingOff sourceIp request

def liftAccounting {Value : Type} : Except AccountingError Value → Except ServerError Value
  | .ok value => .ok value
  | .error reason => .error (.accounting reason)

def handleAccountingRequest (request : Packet) (sourceIp : IpAddr) (secret : Octets) : Action Packet := do
  let call ← check (liftError (accountingCall server request sourceIp))
  let handled ← ask (.account call)
  let _ ← check (liftError (liftAccounting handled))
  check (finishAccounting server.digests request (.new .accountingResponse request.identifier (.zero 16)) secret)

/-- The reply to a new request; `none` where there is none. -/
def dispatch (received : Received) (source : SocketAddr) (secret : Octets) : Action (Option Packet) :=
  match received.request.code with
  | .accessRequest => do
    match ← attempt (handleAccessRequest server received.request source secret) with
    | .ok response => return some response
    | .error (.error .discarded) => return none
    | .error reason => fail reason
  | .accountingRequest => do
    let response ← handleAccountingRequest server received.request source.ip secret
    return some response
  | .statusServer => return received.statusServerReply
  | _ => return none

def keepReply (request : Packet) (fingerprint : RequestFingerprint) (digest : Block 32) (reply : Octets) :
    Action Unit :=
  if request.code = .accessRequest then ask (.storeReply fingerprint digest reply) else return ()

def processNew (received : Received) (source : SocketAddr) (secret : Octets) (fingerprint : RequestFingerprint)
    (digest : Block 32) : Action (Option Octets) := do
  match ← dispatch server received source secret with
  | none => return none
  | some response => do
    let responseData ← check (liftError (liftPacket response.encode))
    keepReply received.request fingerprint digest responseData
    return some responseData

def processReceived (received : Received) (data : Octets) (source : SocketAddr) (secret : Octets) :
    Action (Option Octets) := do
  let request := received.request
  let fingerprint := RequestFingerprint.new source.ip request.identifier request.authenticator
  let digest := requestDigest server.sha256 secret data
  match ← ask (.admitRequest fingerprint source digest) with
  | .new => processNew server received source secret fingerprint digest
  | .replay reply =>
    if request.code = .accessRequest then return some reply else fail (.error .duplicateRequest)
  | .inProgress => fail (.error .duplicateRequest)
  | .conflict => fail (.error .duplicateRequest)

/-- The reply to send, if there is one. -/
def processRequest (data : Octets) (source : SocketAddr) (secret : Octets) (role : PortRole) :
    Action (Option Octets) := do
  match ← check (receive server data secret role) with
  | none => return none
  | some received => processReceived server received data source secret

/-- Text functions that leave everything as it is. -/
def plainTexts : Texts where
  toLowercase := id
  regexMatches _ _ := false
  inNetwork _ _ := false
  fromUtf8Lossy octets := (fromUtf8 octets).getD ""
  displayIpv6 _ := ""

/-- A server without clients, with accounting on its one socket. -/
def sampleServer : ServerConfig where
  digests := .checksum
  sha256 := fun data => .fill 32 data.sum
  texts := plainTexts
  networkContains _ _ := none
  config := none
  accountingPort := .named .shared
  hasAccountingHandler := true

def sampleSource : SocketAddr :=
  ⟨.ofOctets 192 0 2 1, 1812⟩

end UsgRadius.Server
