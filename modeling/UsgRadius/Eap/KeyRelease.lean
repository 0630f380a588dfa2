import UsgRadius.Eap.TeapRefinement

namespace UsgRadius.Eap

open Data Method CryptoBinding

variable {reliable : Prop}

namespace EapTeapServer

variable {Connection Handler : Type} {engine : TlsEngine Connection} {hmacs : Hmacs} {innerMethod : Option Handler}
  {rounds : Nat} {opened : Except String Connection} {journal : List TeapEvent}
  {server : EapTeapServer Connection Handler} {msk : Octets}

theorem sound_reached {inner : InnerMethodHandler Handler}
    (reached : Reaches engine hmacs inner (started innerMethod rounds opened) journal server) :
    (observe journal server).Sound hmacs engine.Encrypts := by
  refine Reaches.invariant (fun _ _ moved sound => sound.move moved) ?_ reached
  cases opened with
  | error reason | ok connection => exact .ofEarly (fun later => absurd rfl later) ⟨rfl, rfl, rfl⟩

theorem getMsk_eq_some (key : server.getMsk hmacs = some msk) :
    server.cryptoBindingVerified = true ∧ server.sentResult = some .success ∧
      server.peerResult = some .success := by
  unfold getMsk at key
  split at key
  · cases key
  · grind

end EapTeapServer

namespace BasicPasswordAuthHandler

variable {username : String} {password : Octets}

def passwordResponse (username password : String) : Octets :=
  UInt8.ofNat (utf8 username).length :: utf8 username ++
    UInt8.ofNat (utf8 password).length :: utf8 password

theorem parseCredentials_sound {value : Octets} (parsed : parseCredentials value = .ok (username, password)) :
    (utf8 username).length < 256 ∧ password.length < 256 ∧
      value = UInt8.ofNat (utf8 username).length :: utf8 username ++
        UInt8.ofNat password.length :: password := by
  cases value with
  | nil => simp [parseCredentials] at parsed
  | cons usernameLength rest =>
    simp only [parseCredentials] at parsed
    split at parsed
    · cases parsed
    · rename_i covered
      simp only [List.length_cons] at covered
      split at parsed
      · cases parsed
      · rename_i decoded
        rw [fromUtf8_eq_some] at decoded
        split at parsed
        · cases parsed
        · rename_i whole
          cases parsed
          rw [Nat.add_comm 1, List.take_succ_cons, List.drop_one, List.tail_cons] at decoded
          have nameLength : (utf8 username).length = usernameLength.toNat := by
            rw [decoded, List.length_take]
            omega
          obtain ⟨passwordLength, tail, remainder⟩ :
              ∃ passwordLength tail, rest.drop usernameLength.toNat = passwordLength :: tail :=
            List.exists_cons_of_ne_nil (by rw [ne_eq, List.drop_eq_nil_iff]; omega)
          have joined : rest = utf8 username ++ passwordLength :: tail := by
            rw [decoded, ← remainder, List.take_append_drop]
          have field : (usernameLength :: rest).getD (1 + usernameLength.toNat) 0 = passwordLength := by
            rw [Nat.add_comm, List.getD_cons_succ, joined, ← nameLength]
            simp
          have password : (usernameLength :: rest).drop (1 + usernameLength.toNat + 1) = tail := by
            rw [joined, ← nameLength, Nat.add_comm 1]
            simp
          rw [not_not, field] at whole
          have width : tail.length = passwordLength.toNat := by
            grind
          rw [password, nameLength, width, UInt8.ofNat_toNat, UInt8.ofNat_toNat, joined]
          exact ⟨usernameLength.toNat_lt, passwordLength.toNat_lt, rfl⟩

theorem authenticates_sound {handler : BasicPasswordAuthHandler}
    (authenticates : handler.authenticates username password = true) :
    handler.expectedUsername = some username ∧
      ∃ expected, handler.expectedPassword = some expected ∧ password = utf8 expected ∧ password ≠ [] := by
  unfold BasicPasswordAuthHandler.authenticates at authenticates
  split at authenticates
  · rename_i expectedUsername expectedPassword named known
    simp only [Bool.and_eq_true, Bool.not_eq_true', List.isEmpty_eq_false_iff, beq_iff_eq,
      Auth.constantTimeEq_iff] at authenticates
    obtain ⟨⟨_, given⟩, same, equal⟩ := authenticates
    exact ⟨by rw [named, same], expectedPassword, known, equal, given⟩
  · cases authenticates

/-- A TLV the handler answers is a password response, which it has compared
once; any other leaves it as it was. -/
theorem processInnerRequest_cases (handler : BasicPasswordAuthHandler) (tlv : TeapTlv) :
    (∃ reason, handler.processInnerRequest tlv = (.error reason, handler)) ∨
      tlv.getType = some .basicPasswordAuthResp ∧
      ∃ username password, parseCredentials tlv.value = .ok (username, password) ∧
        handler.processInnerRequest tlv =
          (.ok (if handler.authenticates username password then TeapResult.success
            else .failure).toResultTlv,
            { handler with
              username := some username
              complete := true
              result := if handler.authenticates username password then .success else .failure }) := by
  unfold processInnerRequest
  split
  · rename_i typed
    cases parsed : parseCredentials tlv.value with
    | error reason => exact .inl ⟨reason, by simp [parsePasswordResponse, parsed]⟩
    | ok credentials => exact .inr ⟨typed, _, _, rfl, by simp [parsePasswordResponse, parsed]⟩
  · exact .inl ⟨_, rfl⟩

end BasicPasswordAuthHandler

variable {tlvs : List TeapTlv}

namespace Conversation

open BasicPasswordAuthHandler

/-- The peer has sent the expected username and the expected password, which is
not empty. -/
def PasswordGiven (expectedUsername expectedPassword : Option String) (journal : List TeapEvent) : Prop :=
  ∃ tlvs tlv username password, .received tlvs ∈ journal ∧ tlv ∈ tlvs ∧
    tlv.getType = some .basicPasswordAuthResp ∧ expectedUsername = some username ∧
    expectedPassword = some password ∧ password ≠ "" ∧ (utf8 username).length < 256 ∧
    (utf8 password).length < 256 ∧ tlv.value = passwordResponse username password

/-- Success stands for a password given, and only password responses are
answered. -/
structure Checked (expectedUsername expectedPassword : Option String)
    (conversation : Conversation BasicPasswordAuthHandler) : Prop where
  running : ∀ handler, conversation.innerMethod = some handler →
    handler.expectedUsername = expectedUsername ∧ handler.expectedPassword = expectedPassword ∧
    (handler.result = .success → PasswordGiven expectedUsername expectedPassword conversation.journal)
  answered : ∀ tlv response, .consulted tlv (.ok response) ∈ conversation.journal →
    tlv.getType = some .basicPasswordAuthResp
  reported : .reported .success ∈ conversation.journal →
    PasswordGiven expectedUsername expectedPassword conversation.journal

section Checked

variable {expectedUsername expectedPassword : Option String} {journal : List TeapEvent}
  {conversation after : Conversation BasicPasswordAuthHandler} {handler : BasicPasswordAuthHandler} {tlv : TeapTlv}

theorem PasswordGiven.mono {later : List TeapEvent} (grows : journal ⊆ later)
    (given : PasswordGiven expectedUsername expectedPassword journal) :
    PasswordGiven expectedUsername expectedPassword later := by
  obtain ⟨tlvs, tlv, username, password, heard, rest⟩ := given
  exact ⟨tlvs, tlv, username, password, grows heard, rest⟩

theorem passwordGiven_of_authenticates {username : String} {password : Octets} (heard : .received tlvs ∈ journal)
    (among : tlv ∈ tlvs) (typed : tlv.getType = some .basicPasswordAuthResp)
    (parsed : parseCredentials tlv.value = .ok (username, password))
    (authenticates : handler.authenticates username password = true) :
    PasswordGiven handler.expectedUsername handler.expectedPassword journal := by
  obtain ⟨usernameBound, passwordBound, value⟩ := parseCredentials_sound parsed
  obtain ⟨named, expected, known, same, given⟩ := authenticates_sound authenticates
  subst same
  refine ⟨tlvs, tlv, username, expected, heard, among, typed, named, known, ?_, usernameBound, passwordBound, value⟩
  intro empty
  exact given (by rw [empty]; rfl)

theorem Checked.consulted (checked : Checked expectedUsername expectedPassword conversation)
    (running : conversation.innerMethod = some handler) (asked : tlv = IdentityType.user.toTlv ∨
      conversation.phase = .phase2InnerAuth ∧ ∃ tlvs, .received tlvs ∈ conversation.journal ∧ tlv ∈ tlvs) :
    Checked expectedUsername expectedPassword
      { conversation.record (.consulted tlv (basicPasswordAuth.processInnerRequest handler tlv).1) with
        innerMethod := some (basicPasswordAuth.processInnerRequest handler tlv).2 } := by
  have grows := @PasswordGiven.mono expectedUsername expectedPassword conversation.journal
  obtain ⟨named, known, success⟩ := checked.running handler running
  rcases processInnerRequest_cases handler tlv with ⟨reason, refused⟩ | ⟨typed, username, password, parsed, compared⟩
  · simp only [basicPasswordAuth, refused]
    cases checked
    constructor <;> grind [record]
  · rcases asked with rfl | ⟨_, tlvs, heard, among⟩
    · cases typed
    · simp only [basicPasswordAuth, compared]
      have given := @passwordGiven_of_authenticates _ _ handler tlv username password heard among typed parsed
      cases checked
      constructor <;> grind [record]

theorem Checked.move {hmacs : Hmacs} (checked : Checked expectedUsername expectedPassword conversation)
    (moved : Move hmacs basicPasswordAuth reliable conversation after) :
    Checked expectedUsername expectedPassword after := by
  have grows := @PasswordGiven.mono expectedUsername expectedPassword conversation.journal
  cases moved with
  | consulted running asked => exact checked.consulted running asked
  | reported inTurn verdict =>
    -- the handler answers no EAP payload
    have results : ∀ handler, basicPasswordAuth.getResult handler = handler.result := fun _ => rfl
    cases checked
    constructor <;> grind [record, Verdict]
  | _ =>
    cases checked
    constructor <;> grind [record]

end Checked

end Conversation

/-! ## One comparison before the first error -/

namespace EapTeapServer

variable {Connection Handler : Type} {engine : TlsEngine Connection} {hmacs : Hmacs}
  {inner : InnerMethodHandler Handler} {journal after : List TeapEvent}
  {server final : EapTeapServer Connection Handler}

def comparisons (journal : List TeapEvent) : Nat :=
  journal.countP isComparison

@[simp] theorem comparisons_record (journal : List TeapEvent) (event : TeapEvent) :
    comparisons (journal ++ [event]) = comparisons journal + if isComparison event then 1 else 0 := by
  simp [comparisons, List.countP_append, List.countP_singleton]

/-- Nothing is compared before the inner method runs, and one response at most
until its result is sent. -/
structure Tally (journal : List TeapEvent) (server : EapTeapServer Connection Handler) : Prop where
  once : comparisons journal ≤ 1
  early : server.phase = .phase1TlsHandshake ∨ server.phase = .phase2InnerAuth → comparisons journal = 0

theorem Tally.congr (tally : Tally journal server) (same : comparisons after = comparisons journal)
    (phase : final.phase = server.phase) : Tally after final :=
  ⟨same.trans_le tally.once, fun early => same.trans (tally.early (phase ▸ early))⟩

section BasicPassword

variable {server : EapTeapServer Connection BasicPasswordAuthHandler} {random : Block 32} {tlvs : List TeapTlv}

end BasicPassword

section Sample

/-- An unfragmented packet of the peer. -/
def sampleDelivery (tlsData : Octets) : Delivery where
  packet := .new { flags := .fromU8 0, tlsMessageLength := none, tlsData }
  random := .zero 32

def sampleBindingResponse : TeapTlv :=
  let binding := withNonce .checksum .sha256 (List.replicate 40 0) (List.replicate 32 0)
    (generateNonce (.zero 32))
  let response := CryptoBindingTlv.new CryptoBindingTlv.subtypeResponse CryptoBindingTlv.flagsMsk teapVersion
    (responseNonce binding.serverNonce)
  { response with
    mskCompoundMac := compoundMac .checksum .sha256 binding.cmk (response.macBuffer [] []) }.toTlv

def sampleAcknowledgement : List TeapTlv :=
  [TeapResult.success.toIntermediateResultTlv, TeapResult.success.toResultTlv, sampleBindingResponse]

def sampleDeliveries : List Delivery :=
  [sampleDelivery [1],
    sampleDelivery (TeapTlv.new .basicPasswordAuthResp true
      (BasicPasswordAuthHandler.passwordResponse "u" "p")).toBytes,
    sampleDelivery (TeapTlv.encodeTlvs sampleAcknowledgement)]

/-- A server that asks for a password in a tunnel without encryption. -/
abbrev PasswordServer : Type := EapTeapServer TlsEngine.PlainConnection BasicPasswordAuthHandler

def sampleStart : PasswordServer :=
  started (some (.new "u" "p")) defaultPhase2Rounds (.ok ⟨true, [], []⟩)

def sampleRun : List TeapEvent × PasswordServer :=
  runAll (processClientMessage .plain .checksum basicPasswordAuth) sampleDeliveries [] sampleStart

end Sample

/-- A conversation that goes on from a server that has announced its result. -/
structure Concluded (start : EapTeapServer Connection Handler) (conversation : Conversation Handler) : Prop where
  phase : conversation.phase = .phase2ResultSent ∨ conversation.phase = .complete
  sentResult : conversation.sentResult = start.sentResult
  complete : start.phase = .complete → conversation.phase = .complete ∧ conversation.peerResult = start.peerResult

/-- The announced result is final, and so is the peer's answer to it. -/
theorem result_final {engine : TlsEngine Connection} {hmacs : Hmacs} {inner : InnerMethodHandler Handler}
    {start server : EapTeapServer Connection Handler} {journal : List TeapEvent}
    (concluded : start.phase = .phase2ResultSent ∨ start.phase = .complete)
    (reached : Reaches engine hmacs inner start journal server) : Concluded start (observe journal server) := by
  refine Reaches.invariant ?_ ⟨concluded, rfl, fun done => ⟨done, rfl⟩⟩ reached
  intro before after move held
  have notInner : before.phase ≠ .phase2InnerAuth := by rcases held.phase with phase | phase <;> simp [phase]
  cases move with
  | tunnelled handshake => rcases held.phase with phase | phase <;> cases handshake.symm.trans phase
  | concluded inTurn | unsent inTurn => exact absurd inTurn notInner
  | acknowledged awaited =>
    refine ⟨.inr rfl, held.sentResult, fun done => ?_⟩
    cases awaited.symm.trans (held.complete done).1
  | _ => exact ⟨held.phase, held.sentResult, held.complete⟩

/-- The password run up to the result that the server announces. -/
def sampleAnnounced : List TeapEvent × PasswordServer :=
  runAll (processClientMessage .plain .checksum basicPasswordAuth) (sampleDeliveries.take 2) [] sampleStart

/-- The peer answers it, and the messages of the whole run come once more. -/
def sampleSequel : List TeapEvent × PasswordServer :=
  runAll (processClientMessage .plain .checksum basicPasswordAuth) (sampleDeliveries.drop 2 ++ sampleDeliveries) []
    sampleAnnounced.2

theorem sampleSequel_final :
    sampleAnnounced.2.phase = .phase2ResultSent ∧ sampleSequel.2.phase = .complete ∧
    sampleSequel.2.sentResult = sampleAnnounced.2.sentResult ∧ sampleRun.2.phase = .complete ∧
    ∀ {journal : List TeapEvent} {server : PasswordServer},
      Reaches .plain .checksum basicPasswordAuth sampleRun.2 journal server →
        server.peerResult = sampleRun.2.peerResult := by
  have announced : sampleAnnounced.2.phase = .phase2ResultSent := by decide +kernel
  have complete : sampleRun.2.phase = .complete := by decide +kernel
  have reached : Reaches .plain .checksum basicPasswordAuth sampleAnnounced.2 sampleSequel.1 sampleSequel.2 :=
    Calls.start.runAll _
  have kept := (result_final (.inl announced) reached).sentResult
  dsimp only [observe] at kept
  refine ⟨announced, by decide +kernel, kept, complete, ?_⟩
  intro journal server sequel
  exact ((result_final (.inr complete) sequel).complete complete).2

end EapTeapServer

end UsgRadius.Eap
