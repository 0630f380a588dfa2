import UsgRadius.Eap.EapTls

namespace UsgRadius.Eap

open Data Method

inductive ProtocolVersion where
  | tls12
  | tls13
deriving DecidableEq

inductive HashAlgorithm where
  | sha256
  | sha384
  | other
deriving DecidableEq

inductive CipherSuite where
  | ecdheEcdsaWithAes256GcmSha384
  | ecdheRsaWithAes256GcmSha384
  | dheRsaWithAes256GcmSha384
  | other
deriving DecidableEq

structure SupportedCipherSuite where
  /-- The hash of a TLS 1.3 suite. -/
  tls13 : Option HashAlgorithm
  suite : CipherSuite
deriving DecidableEq

/-- A rustls `ServerConnection` and the parsing of certificates: any functions
of the connection. Whatever a connection keeps or draws at random is part of
its state, and a call may change it also when it fails. -/
structure TlsEngine (Connection : Type) where
  readTls : Connection → Octets → Except String Nat × Connection
  processNewPackets : Connection → Except String Unit × Connection
  writeTls : Connection → Except String Octets × Connection
  /-- `writer().write_all(..)`. -/
  writeAll : Connection → Octets → Except String Unit × Connection
  /-- What `reader().read(..)` yields until the buffered plaintext is drained,
  and the error that ends it early. -/
  drain : Connection → (List Octets × Option String) × Connection
  isHandshaking : Connection → Bool
  protocolVersion : Connection → Option ProtocolVersion
  negotiatedCipherSuite : Connection → Option SupportedCipherSuite
  exportKeyingMaterial : Connection → (label : Octets) → (context : Option Octets) → (length : Nat) →
    Except String (Block length)
  peerCertificates : Connection → Option (List Octets)
  /-- The first Subject CN of a certificate that is readable as text. -/
  subjectCommonName : Octets → Except String (Option String)

namespace TlsEngine

variable {Connection : Type}

/-- Encryption never fails: plaintext is taken and records come out. -/
structure Encrypts (engine : TlsEngine Connection) : Prop where
  writeAll : ∀ connection plaintext, (engine.writeAll connection plaintext).1 = .ok ()
  writeTls : ∀ connection, ∃ records, (engine.writeTls connection).1 = .ok records

/-- A connection of `plain`: what has come in and what is to go out. -/
structure PlainConnection where
  handshaking : Bool
  incoming : Octets
  outgoing : Octets

/-- An engine to run the model with: the first message is the whole handshake,
and records are the plaintext itself. -/
def plain : TlsEngine PlainConnection where
  readTls := fun connection octets =>
    (.ok octets.length, { connection with incoming := connection.incoming ++ octets })
  processNewPackets := fun connection =>
    (.ok (), if connection.handshaking then { connection with handshaking := false, incoming := [] }
      else connection)
  writeTls := fun connection => (.ok connection.outgoing, { connection with outgoing := [] })
  writeAll := fun connection octets => (.ok (), { connection with outgoing := connection.outgoing ++ octets })
  drain := fun connection => (([connection.incoming], none), { connection with incoming := [] })
  isHandshaking := PlainConnection.handshaking
  protocolVersion := fun _ => some .tls12
  negotiatedCipherSuite := fun _ => some { tls13 := none, suite := .other }
  exportKeyingMaterial := fun _ _ _ length => .ok (.zero length)
  peerCertificates := fun _ => none
  subjectCommonName := fun _ => .ok none

end TlsEngine

/-! ## The server side of an EAP-TLS conversation -/

structure EapTlsServer (Connection : Type) where
  connection : Option Connection
  context : EapTlsContext
  commitmentSent : Bool

namespace EapTlsServer

variable {Connection Event Value : Type} (engine : TlsEngine Connection)

def new : EapTlsServer Connection where
  connection := none
  context := .new
  commitmentSent := false

/-- `opened` is what `ServerConnection::new` returns. -/
def initializeConnection (opened : Except String Connection) :
    Method (EapTlsServer Connection) Event EapError Unit :=
  match opened with
  | .error reason => fail (.tlsError s!"Failed to create connection: {reason}")
  | .ok connection => update fun server =>
    { server with connection := some connection
                  context := { server.context with handshakeState := .started } }

/-- A call on the connection, or `missing` where there is none. The error of
the library is wrapped in a text of ours. -/
def onConnection (missing : EapError) (wrap : String → EapError)
    (operation : Connection → Except String Value × Connection) :
    Method (EapTlsServer Connection) Event EapError Value :=
  call fun server =>
    match server.connection with
    | none => (.error missing, server)
    | some connection =>
      ((operation connection).1.mapError wrap, { server with connection := some (operation connection).2 })

def onContext (method : Method EapTlsContext Empty EapError Value) :
    Method (EapTlsServer Connection) Event EapError Value :=
  within context (fun context server => { server with context }) method

def isHandshakeComplete (server : EapTlsServer Connection) : Bool :=
  server.connection.elim false fun connection => !engine.isHandshaking connection

def processClientMessage (packet : EapTlsPacket) :
    Method (EapTlsServer Connection) Event EapError (Option Octets) := do
  if packet.flags.start then
    fail .invalidState
  else do
    match ← onContext (EapTlsContext.processIncoming packet) with
    | none => return none
    | some tlsData => do
      let _ ← onConnection .invalidState (fun reason => .tlsError s!"Failed to read TLS: {reason}")
        fun connection => engine.readTls connection tlsData
      onConnection .invalidState (fun reason => .tlsError s!"TLS processing error: {reason}")
        engine.processNewPackets
      update fun server =>
        { server with
          context := { server.context with
            handshakeState := if server.isHandshakeComplete engine then .complete else .handshaking } }
      let response ← onConnection .invalidState (fun reason => .tlsError s!"Failed to write TLS: {reason}")
        engine.writeTls
      return if response.isEmpty then none else some response

def negotiatedCipherSuite (server : EapTlsServer Connection) : Option SupportedCipherSuite :=
  server.connection.bind engine.negotiatedCipherSuite

def isTls13 (server : EapTlsServer Connection) : Bool :=
  server.connection.bind engine.protocolVersion == some .tls13

def writeCommitmentRecord : Method (EapTlsServer Connection) Event EapError Octets := do
  if (← self).connection.elim true engine.isHandshaking then
    fail .invalidState
  else do
    onConnection .invalidState (fun reason => .tlsError s!"Failed to queue commitment: {reason}")
      fun connection => engine.writeAll connection [0x00]
    let record ← onConnection .invalidState
      (fun reason => .tlsError s!"Failed to encode commitment record: {reason}") engine.writeTls
    if record.isEmpty then
      fail (.tlsError "commitment message produced no TLS record")
    else do
      update fun server => { server with commitmentSent := true }
      return record

def hasPendingFragments (server : EapTlsServer Connection) : Bool :=
  server.context.hasPendingFragments

def nextOutgoingFragment (server : EapTlsServer Connection) :
    Option EapTlsPacket × EapTlsServer Connection :=
  (server.context.getNextFragment.1, { server with context := server.context.getNextFragment.2 })

def queueOutgoingTls (tlsData : Octets) (maxFragmentSize : Nat) (server : EapTlsServer Connection) :
    EapTlsServer Connection :=
  { server with context := server.context.queueTlsData tlsData maxFragmentSize }

def eapTlsTypeCode : UInt8 := 0x0d

def exporterInput (tls13 : Bool) : Octets × Option Octets :=
  if tls13 then (utf8 "EXPORTER_EAP_TLS_Key_Material", some [eapTlsTypeCode])
  else (utf8 "client EAP encryption", none)

def splitKeys (material : Block 128) : Block 64 × Block 64 :=
  (⟨material.octets.take 64, by simp⟩, ⟨material.octets.drop 64, by simp⟩)

def extractKeys : Method (EapTlsServer Connection) Event EapError Unit := do
  let server ← self
  match server.connection with
  | none => fail .invalidState
  | some connection =>
    if engine.isHandshaking connection then
      fail .invalidState
    else do
      let (label, context) := exporterInput (server.isTls13 engine)
      let material ← check ((engine.exportKeyingMaterial connection label context 128).mapError fun reason =>
        .tlsError s!"Failed to export keying material: {reason}")
      update fun server => { server with
        context := { server.context with
          msk := some (splitKeys material).1, emsk := some (splitKeys material).2 } }

def getMsk (server : EapTlsServer Connection) : Option (Block 64) :=
  server.context.msk

def sessionId (server : EapTlsServer Connection) : Option Octets :=
  match server.connection with
  | none => none
  | some connection =>
    if engine.isHandshaking connection || engine.protocolVersion connection != some .tls13 then
      none
    else
      match engine.exportKeyingMaterial connection (utf8 "EXPORTER_EAP_TLS_Method-Id")
          (some [eapTlsTypeCode]) 64 with
      | .error _ => none
      | .ok methodId => some (eapTlsTypeCode :: methodId.octets)

def exportKeyingMaterial (server : EapTlsServer Connection) (label : Octets) (context : Option Octets)
    (length : Nat) : Except EapError Octets :=
  match server.connection with
  | none => .error .invalidState
  | some connection =>
    if engine.isHandshaking connection then
      .error .invalidState
    else
      match engine.exportKeyingMaterial connection label context length with
      | .error reason => .error (.tlsError s!"export_keying_material failed: {reason}")
      | .ok material => .ok material.octets

def getPeerCertificates (server : EapTlsServer Connection) : Option (List Octets) :=
  server.connection.bind engine.peerCertificates

def verifyPeerIdentity (server : EapTlsServer Connection) (expectedIdentity : String) :
    Except EapError Bool :=
  match server.getPeerCertificates engine with
  | some (certificate :: _) =>
    match engine.subjectCommonName certificate with
    | .error reason => .error (.certificateError s!"Failed to parse peer certificate: {reason}")
    | .ok commonName => .ok (commonName.getD "" == expectedIdentity)
  | _ => .ok false

/-! ## Methods that keep the connection

Nothing but `initialize_connection` makes a connection, and nothing drops it. -/

/-- A method that opens and closes no connection, and leaves the assembler as
`Holds` says. -/
def Keeps (Holds : TlsFragmentAssembler → Prop) (method : Method (EapTlsServer Connection) Empty EapError Value) :
    Prop :=
  ∀ server, Holds server.context.assembler →
    (method.run server).state.connection.isSome = server.connection.isSome ∧
      Holds (method.run server).state.context.assembler

section Keeps

variable {Next : Type} {engine} {Holds : TlsFragmentAssembler → Prop}

theorem keeps_pure (value : Value) : Keeps Holds (pure value : Method (EapTlsServer Connection) Empty EapError Value) :=
  fun _ holds => ⟨rfl, holds⟩

theorem keeps_check (result : Except EapError Value) :
    Keeps Holds (check result : Method (EapTlsServer Connection) Empty EapError Value) :=
  fun _ holds => ⟨rfl, holds⟩

theorem keeps_bind {first : Method (EapTlsServer Connection) Empty EapError Value}
    {next : Value → Method (EapTlsServer Connection) Empty EapError Next} (kept : Keeps Holds first)
    (continues : ∀ value, Keeps Holds (next value)) : Keeps Holds (first >>= next) := by
  intro server holds
  have earlier := kept server holds
  simp only [bind, Method.bind]
  cases outcome : first.run server with
  | mk result between events =>
    rw [outcome] at earlier
    cases result with
    | error reason => exact earlier
    | ok value =>
      have later := continues value between earlier.2
      exact ⟨later.1.trans earlier.1, later.2⟩

theorem keeps_onConnection (missing : EapError) (wrap : String → EapError)
    (operation : Connection → Except String Value × Connection) :
    Keeps Holds (onConnection missing wrap operation : Method (EapTlsServer Connection) Empty EapError Value) := by
  intro server holds
  simp only [onConnection, call]
  cases found : server.connection with
  | none => exact ⟨by rw [found], holds⟩
  | some connection => exact ⟨rfl, holds⟩

theorem keeps_processClientMessage {packet : EapTlsPacket} (fed : ∀ assembler, Holds assembler →
      Holds ((TlsFragmentAssembler.addFragment packet : Method _ Empty _ _).run assembler).state) :
    Keeps Holds (processClientMessage engine packet : Method (EapTlsServer Connection) Empty EapError _) := by
  unfold processClientMessage
  split
  · exact keeps_check _
  next unstarted =>
    apply keeps_bind
    · intro server holds
      simp only [onContext, within, EapTlsContext.processIncoming, unstarted]
      exact ⟨trivial, fed _ holds⟩
    · intro incoming
      cases incoming with
      | none => exact keeps_pure _
      | some tlsData =>
        apply keeps_bind (keeps_onConnection _ _ _)
        intro _
        apply keeps_bind (keeps_onConnection _ _ _)
        intro _
        apply keeps_bind
        · exact fun _ holds => ⟨rfl, holds⟩
        · intro _
          exact keeps_bind (keeps_onConnection _ _ _) fun _ => keeps_pure _

theorem keeps_extractKeys : Keeps Holds (extractKeys engine : Method (EapTlsServer Connection) Empty EapError Unit) := by
  apply keeps_bind fun _ holds => ⟨rfl, holds⟩
  intro server
  split
  · exact keeps_check _
  · split
    · exact keeps_check _
    · exact keeps_bind (keeps_check _) fun _ => fun _ holds => ⟨rfl, holds⟩

end Keeps

end EapTlsServer

end UsgRadius.Eap
