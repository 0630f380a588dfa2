import UsgRadius.Eap.CryptoBinding
import UsgRadius.Packet.Auth

namespace UsgRadius.Eap

open Data Method CryptoBinding CryptoBindingTlv TeapResult

/-- An `InnerMethodHandler` with the state `Handler`. -/
structure InnerMethodHandler (Handler : Type) where
  processInnerRequest : Handler → TeapTlv → Except EapError TeapTlv × Handler
  isComplete : Handler → Bool
  getResult : Handler → TeapResult
  getImsk : Handler → Option Octets

structure BasicPasswordAuthHandler where
  expectedUsername : Option String
  expectedPassword : Option String
  username : Option String
  complete : Bool
  result : TeapResult
deriving DecidableEq

namespace BasicPasswordAuthHandler

/-- What the constructors share: nothing received, and failure as the result. -/
def initial (expectedUsername expectedPassword : Option String) : BasicPasswordAuthHandler where
  expectedUsername
  expectedPassword
  username := none
  complete := false
  result := .failure

def new (expectedUsername expectedPassword : String) : BasicPasswordAuthHandler :=
  initial (some expectedUsername) (some expectedPassword)

/-- For a user the backend has no password for: every response fails. -/
def withoutPassword (expectedUsername : String) : BasicPasswordAuthHandler :=
  initial (some expectedUsername) none

def parseCredentials (value : Octets) : Except EapError (String × Octets) :=
  match value with
  | [] => .error (.invalidLength 0)
  | usernameLength :: _ =>
    let usernameEnd := 1 + usernameLength.toNat
    if value.length < usernameEnd + 1 then
      .error (.invalidLength value.length)
    else
      match fromUtf8 ((value.take usernameEnd).drop 1) with
      | none => .error .invalidResponseFormat
      | some username =>
        let passwordLength := (value.getD usernameEnd 0).toNat
        if value.length ≠ usernameEnd + 1 + passwordLength then
          .error (.invalidLength value.length)
        else
          .ok (username, value.drop (usernameEnd + 1))

def authenticates (handler : BasicPasswordAuthHandler) (username : String) (password : Octets) : Bool :=
  match handler.expectedUsername, handler.expectedPassword with
  | some expectedUsername, some expectedPassword =>
    !(utf8 expectedPassword).isEmpty && !password.isEmpty &&
      (username == expectedUsername && Auth.constantTimeEq password (utf8 expectedPassword))
  | _, _ => false

def parsePasswordResponse (handler : BasicPasswordAuthHandler) (tlv : TeapTlv) :
    Except EapError BasicPasswordAuthHandler := do
  let (username, password) ← parseCredentials tlv.value
  return { handler with
    username := some username
    complete := true
    result := if handler.authenticates username password then .success else .failure }

def createPasswordRequest : TeapTlv :=
  .new .basicPasswordAuthReq true []

def processInnerRequest (handler : BasicPasswordAuthHandler) (tlv : TeapTlv) :
    Except EapError TeapTlv × BasicPasswordAuthHandler :=
  if tlv.getType = some .basicPasswordAuthResp then
    match handler.parsePasswordResponse tlv with
    | .ok handler => (.ok handler.result.toResultTlv, handler)
    | .error reason => (.error reason, handler)
  else
    (.error .invalidResponseFormat, handler)

end BasicPasswordAuthHandler

def basicPasswordAuth : InnerMethodHandler BasicPasswordAuthHandler where
  processInnerRequest := BasicPasswordAuthHandler.processInnerRequest
  isComplete := BasicPasswordAuthHandler.complete
  getResult := BasicPasswordAuthHandler.result
  getImsk := fun _ => none

inductive TeapPhase where
  | phase1TlsHandshake
  | phase2InnerAuth
  | phase2ResultSent
  | complete
deriving DecidableEq

/-- What an observer of the server sees inside the tunnel. -/
inductive TeapEvent where
  /-- A message of the peer, decrypted and taken apart. -/
  | received (tlvs : List TeapTlv)
  /-- A message handed out, encrypted. -/
  | sent (tlvs : List TeapTlv)
  /-- A TLV given to the inner method, and its answer. -/
  | consulted (tlv : TeapTlv) (answer : Except EapError TeapTlv)
  /-- The verdict the inner method has reached. -/
  | reported (result : TeapResult)
deriving DecidableEq

structure EapTeapServer (Connection Handler : Type) where
  tlsServer : EapTlsServer Connection
  phase : TeapPhase
  innerMethod : Option Handler
  cryptoBinding : Option CryptoBinding
  cryptoBindingVerified : Bool
  phase2Started : Bool
  phase2Rounds : Nat
  maxPhase2Rounds : Nat
  identityTypeReceived : Bool
  sentResult : Option TeapResult
  peerResult : Option TeapResult
  peerVersion : Option UInt8
  serverOuterTlvs : Octets
  peerOuterTlvs : Octets

/-- A packet of the peer, and the octets drawn at random if a nonce is needed
while it is processed. -/
structure Delivery where
  packet : TeapPacket
  random : Block 32

namespace EapTeapServer

variable {Connection Handler Value : Type}

/-- `EapTeapServer::MAX_PHASE2_ROUNDS`. -/
def defaultPhase2Rounds : Nat := 32

def build (innerMethod : Option Handler) : EapTeapServer Connection Handler where
  tlsServer := { EapTlsServer.new with context := { EapTlsContext.new with lengthFlagPolicy := .fragmentedOnly } }
  phase := .phase1TlsHandshake
  innerMethod
  cryptoBinding := none
  cryptoBindingVerified := false
  phase2Started := false
  phase2Rounds := 0
  maxPhase2Rounds := defaultPhase2Rounds
  identityTypeReceived := false
  sentResult := none
  peerResult := none
  peerVersion := none
  serverOuterTlvs := []
  peerOuterTlvs := []

abbrev Step (Connection Handler Value : Type) :=
  Method (EapTeapServer Connection Handler) TeapEvent EapError Value

def onTls (method : Method (EapTlsServer Connection) Empty EapError Value) : Step Connection Handler Value :=
  within tlsServer (fun tlsServer server => { server with tlsServer }) method

def initializeConnection (opened : Except String Connection) : Step Connection Handler Unit :=
  onTls (EapTlsServer.initializeConnection opened)

def setMaxPhase2Rounds (rounds : Nat) : Step Connection Handler Unit :=
  update fun server => { server with maxPhase2Rounds := rounds }

/-- A server as its caller sets it up. `opened` is what opening the TLS
connection gave. -/
def started (innerMethod : Option Handler) (rounds : Nat) (opened : Except String Connection) :
    EapTeapServer Connection Handler :=
  ((do setMaxPhase2Rounds rounds; initializeConnection opened : Step Connection Handler Unit).run
    (build innerMethod)).state

/-- A `u32` counter that saturates. -/
def countPhase2Round : Step Connection Handler Unit := do
  update fun server => { server with phase2Rounds := min (server.phase2Rounds + 1) 0xffffffff }
  let server ← self
  if server.phase2Rounds > server.maxPhase2Rounds then fail (.phase2LimitExceeded "Phase 2 rounds")
  else return ()

def noteIdentityTypeReceived : Step Connection Handler Unit := do
  if (← self).identityTypeReceived then
    fail (.phase2LimitExceeded "repeated Identity-Type TLV")
  else
    update fun server => { server with identityTypeReceived := true }

def isComplete (server : EapTeapServer Connection Handler) : Bool :=
  server.phase == .complete

def negotiatedVersion (server : EapTeapServer Connection Handler) : Option UInt8 :=
  server.peerVersion

def getMsk (hmacs : Hmacs) (server : EapTeapServer Connection Handler) : Option Octets :=
  if !server.cryptoBindingVerified then none
  else if server.sentResult ≠ some .success ∨ server.peerResult ≠ some .success then none
  else server.cryptoBinding.map (deriveMsk hmacs)

def hasPendingFragments (server : EapTeapServer Connection Handler) : Bool :=
  server.tlsServer.hasPendingFragments

def nextOutgoingFragment (server : EapTeapServer Connection Handler) :
    Option TeapPacket × EapTeapServer Connection Handler :=
  (server.tlsServer.nextOutgoingFragment.1.map TeapPacket.new,
    { server with tlsServer := server.tlsServer.nextOutgoingFragment.2 })

def queueOutgoingTls (tlsData : Octets) (maxFragmentSize : Nat) (server : EapTeapServer Connection Handler) :
    EapTeapServer Connection Handler :=
  { server with tlsServer := server.tlsServer.queueOutgoingTls tlsData maxFragmentSize }

variable (engine : TlsEngine Connection) (hmacs : Hmacs) (inner : InnerMethodHandler Handler)

def teapHash (server : EapTeapServer Connection Handler) : Except EapError TeapHash :=
  match server.tlsServer.negotiatedCipherSuite engine with
  | some suite => .ok (.fromCipherSuite suite)
  | none => .error .invalidState

def deriveSessionKeySeed (server : EapTeapServer Connection Handler) : Except EapError Octets :=
  server.tlsServer.exportKeyingMaterial engine sessionKeySeedLabel none
    sessionKeySeedLength

def getInnerImsk (server : EapTeapServer Connection Handler) : Octets :=
  (server.innerMethod.bind inner.getImsk).getD (List.replicate imskLength 0)

/-- The Crypto-Binding Request of a round, with the MSK Compound-MAC only. -/
def bindingRequest (receivedVersion : UInt8) (serverOuterTlvs peerOuterTlvs : Octets) (binding : CryptoBinding) :
    CryptoBindingTlv :=
  let request := new subtypeRequest flagsMsk receivedVersion
    binding.serverNonce
  { request with
    mskCompoundMac := compoundMac hmacs binding.hash binding.cmk
      (request.macBuffer serverOuterTlvs peerOuterTlvs) }

def buildCryptoBindingRequestTlv (random : Block 32) : Step Connection Handler TeapTlv := do
  let server ← self
  let hash ← check (server.teapHash engine)
  let sessionKeySeed ← check (server.deriveSessionKeySeed engine)
  let binding := withNonce hmacs hash sessionKeySeed (server.getInnerImsk inner)
    (generateNonce random)
  update fun server => { server with cryptoBinding := some binding }
  return (bindingRequest hmacs (server.peerVersion.getD teapVersion) server.serverOuterTlvs server.peerOuterTlvs
    binding).toTlv

def checkCryptoBindingResponse (binding : CryptoBinding) (serverOuterTlvs peerOuterTlvs : Octets)
    (response : CryptoBindingTlv) : Except EapError Unit :=
  if response.version ≠ bindingVersion ∨ response.receivedVersion ≠ teapVersion ∨
      response.subType ≠ subtypeResponse then
    .error .invalidResponseFormat
  else if response.flags ≠ flagsMsk then
    .error .invalidResponseFormat
  else if response.nonce ≠ responseNonce binding.serverNonce then
    .error .invalidResponseFormat
  else if !Auth.constantTimeEq
      (compoundMac hmacs binding.hash binding.cmk
        (response.macBuffer serverOuterTlvs peerOuterTlvs)).octets
      response.mskCompoundMac.octets then
    .error .authenticationFailed
  else
    .ok ()

def verifyCryptoBindingResponseTlv (tlv : TeapTlv) : Step Connection Handler Unit := do
  let response ← check (fromTlv tlv)
  let server ← self
  match server.cryptoBinding with
  | none => fail .invalidState
  | some binding => do
    check (checkCryptoBindingResponse hmacs binding server.serverOuterTlvs server.peerOuterTlvs response)
    update fun server => { server with
      cryptoBinding := some { binding with clientNonce := some response.nonce }
      cryptoBindingVerified := true }

/-- Feed the records to the connection, which takes as many octets a round as
it likes but at least one, so that there are no more rounds than octets. -/
def feedRecords : (rounds : Nat) → (encrypted : Octets) → Connection → Except EapError Unit × Connection
  | 0, _, connection => (.ok (), connection)
  | _ + 1, [], connection => (.ok (), connection)
  | rounds + 1, octet :: rest, connection =>
    match engine.readTls connection (octet :: rest) with
    | (.error reason, connection) => (.error (.tlsError s!"Failed to read TLS data: {reason}"), connection)
    | (.ok 0, connection) =>
      (.error (.tlsError "TLS receive buffer full before the message was consumed"), connection)
    | (.ok (consumed + 1), connection) =>
      match engine.processNewPackets connection with
      | (.error reason, connection) =>
        (.error (.tlsError s!"Failed to process TLS packets: {reason}"), connection)
      | (.ok (), connection) => feedRecords rounds ((octet :: rest).drop (consumed + 1)) connection

/-- The plaintext of a reassembled message. -/
def decrypt (encrypted : Octets) (connection : Connection) : Except EapError Octets × Connection :=
  match feedRecords engine encrypted.length encrypted connection with
  | (.error reason, connection) => (.error reason, connection)
  | (.ok (), connection) =>
    match engine.drain connection with
    | ((chunks, none), connection) => (.ok chunks.flatten, connection)
    | ((_, some reason), connection) =>
      (.error (.tlsError s!"Failed to read decrypted data: {reason}"), connection)

def decryptTlsData (encrypted : Octets) : Step Connection Handler Octets :=
  onTls (call fun server =>
    match server.connection with
    | none => (.error (.tlsError "TLS connection not initialized"), server)
    | some connection =>
      ((decrypt engine encrypted connection).1,
        { server with connection := some (decrypt engine encrypted connection).2 }))

def sendTlvs (tlvs : List TeapTlv) : Step Connection Handler (Option Octets) := do
  update fun server => { server with phase2Started := true }
  let missing := EapError.tlsError "TLS connection not initialized"
  onTls (EapTlsServer.onConnection missing (fun reason => .tlsError s!"Failed to write application data: {reason}")
    fun connection => engine.writeAll connection (TeapTlv.encodeTlvs tlvs))
  let encrypted ← onTls (EapTlsServer.onConnection missing
    (fun reason => .tlsError s!"Failed to write TLS records: {reason}") engine.writeTls)
  note (.sent tlvs)
  return some encrypted

/-- `handler.process_inner_request(tlv)`. -/
def consult (handler : Handler) (tlv : TeapTlv) : Step Connection Handler (Except EapError TeapTlv) := do
  let answered := inner.processInnerRequest handler tlv
  update fun server => { server with innerMethod := some answered.2 }
  note (.consulted tlv answered.1)
  return answered.1

def firstRequest : Step Connection Handler TeapTlv := do
  match (← self).innerMethod with
  | none => return BasicPasswordAuthHandler.createPasswordRequest
  | some handler => do
    match ← consult inner handler IdentityType.user.toTlv with
    | .ok request => return request
    | .error _ => return BasicPasswordAuthHandler.createPasswordRequest

def openPhase2 : Step Connection Handler (Option Octets) := do
  let request ← firstRequest inner
  sendTlvs engine [request, IdentityType.user.toTlv]

def processResultAck (tlvs : List TeapTlv) : Step Connection Handler (Option Octets) := do
  if (TeapTlv.find tlvs .nak).isSome then
    fail .invalidResponseFormat
  else
    match TeapTlv.find tlvs .result with
    | none => fail .invalidState
    | some resultTlv => do
      let result ← check (fromResultTlv resultTlv)
      checkBinding
      update fun server => { server with peerResult := some result, phase := .complete }
      return none
where
  /-- After a Result=Success the Crypto-Binding is validated before the
  Intermediate-Result is examined. -/
  checkBinding : Step Connection Handler Unit := do
    if (← self).sentResult = some .success then
      match TeapTlv.find tlvs .cryptoBinding with
      | none => fail .invalidState
      | some bindingTlv => do
        verifyCryptoBindingResponseTlv hmacs bindingTlv
        match TeapTlv.find tlvs .intermediateResult with
        | none => fail .invalidState
        | some intermediateTlv => do
          let intermediate ← check (fromIntermediateResultTlv intermediateTlv)
          if intermediate ≠ .success then fail .authenticationFailed
          else return ()
    else return ()

def sendFailureResult : Step Connection Handler (Option Octets) := do
  update fun server => { server with sentResult := some .failure, phase := .phase2ResultSent }
  sendTlvs engine [failure.toResultTlv]

def sendBindingAndResult (random : Block 32) : Step Connection Handler (Option Octets) := do
  let bindingTlv ← buildCryptoBindingRequestTlv engine hmacs inner random
  update fun server => { server with sentResult := some .success, phase := .phase2ResultSent }
  sendTlvs engine [success.toIntermediateResultTlv, success.toResultTlv, bindingTlv]

def finishInnerMethod (random : Block 32) : TeapResult → Step Connection Handler (Option Octets)
  | .success => sendBindingAndResult engine hmacs inner random
  | .failure => sendFailureResult engine

/-- What is looked at in every TLV of a message before any of them is acted
on. -/
def precheckTlv (tlv : TeapTlv) : Step Connection Handler Unit :=
  match tlv.getType with
  | some .result | some .cryptoBinding | some .intermediateResult => fail .invalidState
  | some .nak => fail .invalidResponseFormat
  | some .identityType => do
    let identityType ← check (IdentityType.fromTlv tlv)
    if identityType ≠ .user then fail .invalidResponseFormat
    else noteIdentityTypeReceived
  | none => if tlv.mandatory then fail .invalidResponseFormat else return ()
  | some _ => return ()

def precheck : List TeapTlv → Step Connection Handler Unit
  | [] => return ()
  | tlv :: rest => do
    precheckTlv tlv
    precheck rest

/-- Act on the TLVs one after another, until the inner method has something to
say. -/
def runInnerMethod (random : Block 32) : List TeapTlv → Step Connection Handler (Option Octets)
  | [] => return none
  | tlv :: rest => do
    match tlv.getType, (← self).innerMethod with
    | some .basicPasswordAuthResp, none => fail .invalidState
    | some .basicPasswordAuthResp, some handler => do
      match ← consult inner handler tlv with
      | .error reason => fail reason
      | .ok _ =>
        let handler := (inner.processInnerRequest handler tlv).2
        if inner.isComplete handler then do
          note (.reported (inner.getResult handler))
          finishInnerMethod engine hmacs inner random (inner.getResult handler)
        else runInnerMethod random rest
    | some .eapPayload, none => fail .invalidState
    | some .eapPayload, some handler => do
      match ← consult inner handler tlv with
      | .error reason => fail reason
      | .ok response =>
        if response.getType = some .intermediateResult then do
          let result ← check (fromIntermediateResultTlv response)
          note (.reported result)
          finishInnerMethod engine hmacs inner random result
        else sendTlvs engine [response]
    | _, _ => runInnerMethod random rest

def processPhase2Tlvs (random : Block 32) (tlvs : List TeapTlv) : Step Connection Handler (Option Octets) := do
  if tlvs.isEmpty then
    if !(← self).phase2Started then openPhase2 engine inner
    else fail .invalidState
  else do
    precheck tlvs
    runInnerMethod engine hmacs inner random tlvs

/-- Version negotiation on the first packet; Outer TLVs are accepted on no
other. -/
def negotiate (packet : TeapPacket) : Step Connection Handler Unit := do
  match (← self).peerVersion with
  | none =>
    if packet.version ≠ teapVersion then fail .invalidResponseFormat
    else update fun server =>
      { server with peerVersion := some packet.version, peerOuterTlvs := packet.outerTlvs }
  | some version =>
    if packet.version ≠ version ∨ packet.outerTlvs ≠ [] then fail .invalidResponseFormat
    else return ()

def processPhase1 (packet : EapTlsPacket) : Step Connection Handler (Option Octets) := do
  let response ← onTls (EapTlsServer.processClientMessage engine packet)
  if (← self).tlsServer.isHandshakeComplete engine then do
    onTls (EapTlsServer.extractKeys engine)
    update fun server => { server with phase := .phase2InnerAuth }
    match ← openPhase2 engine inner with
    | some opening => return some (response.getD [] ++ opening)
    | none => return response
  else return response

def processPhase2 (packet : EapTlsPacket) (random : Block 32) : Step Connection Handler (Option Octets) := do
  if packet.flags.start then
    fail .invalidState
  else do
    match ← onTls (EapTlsServer.onContext (EapTlsContext.processIncoming packet)) with
    | none => return none
    | some encrypted => do
      countPhase2Round
      if encrypted.isEmpty then
        if !(← self).phase2Started then openPhase2 engine inner
        else fail .invalidState
      else do
        let tlvData ← decryptTlsData engine encrypted
        let tlvs ← check (TeapTlv.parseTlvs tlvData)
        note (.received tlvs)
        if (← self).phase = .phase2ResultSent then processResultAck hmacs tlvs
        else processPhase2Tlvs engine hmacs inner random tlvs

def processClientMessage (delivery : Delivery) : Step Connection Handler (Option Octets) := do
  negotiate delivery.packet
  match (← self).phase with
  | .phase1TlsHandshake => processPhase1 engine inner delivery.packet.tls
  | .phase2InnerAuth | .phase2ResultSent => processPhase2 engine hmacs inner delivery.packet.tls delivery.random
  | .complete => fail .invalidState

end EapTeapServer

end UsgRadius.Eap
