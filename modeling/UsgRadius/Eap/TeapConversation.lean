import UsgRadius.Eap.TeapServer

namespace UsgRadius.Eap

open Data CryptoBindingTlv TeapResult

/-! What a TEAP conversation is, whatever the TLS library does: the phases, the
inner method, the Crypto-Binding round and the results exchanged, with a journal
of what went through the tunnel. -/

structure Conversation (Handler : Type) where
  journal : List TeapEvent
  connected : Bool
  phase : TeapPhase
  innerMethod : Option Handler
  cryptoBinding : Option CryptoBinding
  bound : Bool
  sentResult : Option TeapResult
  peerResult : Option TeapResult
  version : Option UInt8
  serverOuterTlvs : Octets
  peerOuterTlvs : Octets

namespace Conversation

variable {Handler : Type} (hmacs : Hmacs) {before after : Conversation Handler}

def record (conversation : Conversation Handler) (event : TeapEvent) : Conversation Handler :=
  { conversation with journal := conversation.journal ++ [event] }

structure Verifies (binding : CryptoBinding) (serverOuterTlvs peerOuterTlvs : Octets)
    (response : CryptoBindingTlv) : Prop where
  version : response.version = bindingVersion
  receivedVersion : response.receivedVersion = teapVersion
  subType : response.subType = subtypeResponse
  flags : response.flags = flagsMsk
  nonce : response.nonce = CryptoBinding.responseNonce binding.serverNonce
  compoundMac : response.mskCompoundMac = CryptoBinding.compoundMac hmacs binding.hash binding.cmk
    (response.macBuffer serverOuterTlvs peerOuterTlvs)

def Binds (conversation : Conversation Handler) (tlvs : List TeapTlv) : Prop :=
  ∃ tlv response binding, TeapTlv.find tlvs .cryptoBinding = some tlv ∧
    fromTlv tlv = .ok response ∧ conversation.cryptoBinding = some binding ∧
    Verifies hmacs binding conversation.serverOuterTlvs conversation.peerOuterTlvs response

def Gives (tlvs : List TeapTlv) (tlvType : TlvType) (result : TeapResult) : Prop :=
  ∃ tlv, TeapTlv.find tlvs tlvType = some tlv ∧ fromResultTlv tlv = .ok result

/-- An acceptable answer to the server's Result TLV. -/
structure Acknowledges (conversation : Conversation Handler) (tlvs : List TeapTlv) (result : TeapResult) :
    Prop where
  noNak : TeapTlv.find tlvs .nak = none
  peerResult : Gives tlvs .result result
  binds : conversation.sentResult = some .success → conversation.Binds hmacs tlvs
  intermediate : conversation.sentResult = some .success → Gives tlvs .intermediateResult .success

section Rebinding

variable {hmacs} {binding : CryptoBinding} {tlvs : List TeapTlv} {result : TeapResult}

theorem Acknowledges.congr (acknowledges : before.Acknowledges hmacs tlvs result)
    (sent : after.sentResult = before.sentResult) (binding : after.cryptoBinding = before.cryptoBinding)
    (serverOuter : after.serverOuterTlvs = before.serverOuterTlvs)
    (peerOuter : after.peerOuterTlvs = before.peerOuterTlvs) : after.Acknowledges hmacs tlvs result := by
  refine ⟨acknowledges.noNak, acknowledges.peerResult, ?_, ?_⟩
  · intro success
    simpa only [Binds, binding, serverOuter, peerOuter] using acknowledges.binds (sent.symm.trans success)
  · intro success
    exact acknowledges.intermediate (sent.symm.trans success)

theorem Acknowledges.rebind {conversation : Conversation Handler}
    (acknowledges : conversation.Acknowledges hmacs tlvs result) (current : conversation.cryptoBinding = some binding)
    (nonce : Block 32) :
    { conversation with
      cryptoBinding := some { binding with clientNonce := some nonce }
      bound := true }.Acknowledges hmacs tlvs result := by
  refine ⟨acknowledges.noNak, acknowledges.peerResult, ?_, acknowledges.intermediate⟩
  intro success
  obtain ⟨tlv, response, round, found, parsed, named, verifies⟩ := acknowledges.binds success
  rw [current] at named
  cases named
  exact ⟨tlv, response, _, found, parsed, rfl, verifies.version, verifies.receivedVersion, verifies.subType,
    verifies.flags, verifies.nonce, verifies.compoundMac⟩

end Rebinding

variable (inner : InnerMethodHandler Handler) {tlvs : List TeapTlv}

def Verdict (conversation : Conversation Handler) (result : TeapResult) : Prop :=
  (∃ handler, conversation.innerMethod = some handler ∧ inner.isComplete handler = true ∧
    inner.getResult handler = result) ∨
  ∃ tlv response, tlv.getType = some .eapPayload ∧ .consulted tlv (.ok response) ∈ conversation.journal ∧
    response.getType = some .intermediateResult ∧ fromIntermediateResultTlv response = .ok result

def Announces (conversation : Conversation Handler) (tlvs : List TeapTlv) : TeapResult → Prop
  | .failure => tlvs = [failure.toResultTlv]
  | .success => ∃ binding, conversation.cryptoBinding = some binding ∧
      tlvs = [success.toIntermediateResultTlv, success.toResultTlv,
        (EapTeapServer.bindingRequest hmacs (conversation.version.getD teapVersion) conversation.serverOuterTlvs
          conversation.peerOuterTlvs binding).toTlv]

theorem Announces.congr {hmacs : Hmacs} {result : TeapResult} (announces : before.Announces hmacs tlvs result)
    (binding : after.cryptoBinding = before.cryptoBinding) (version : after.version = before.version)
    (serverOuter : after.serverOuterTlvs = before.serverOuterTlvs)
    (peerOuter : after.peerOuterTlvs = before.peerOuterTlvs) : after.Announces hmacs tlvs result := by
  cases result with
  | failure => exact announces
  | success => simpa only [Announces, binding, version, serverOuter, peerOuter] using announces

/-- The moves of a conversation. `reliable` says that encryption never fails. -/
inductive Move (reliable : Prop) : Conversation Handler → Conversation Handler → Prop
  | negotiated {conversation} (outerTlvs : Octets) (first : conversation.version = none) :
      Move reliable conversation { conversation with version := some teapVersion, peerOuterTlvs := outerTlvs }
  | tunnelled {conversation} (handshake : conversation.phase = .phase1TlsHandshake)
      (known : conversation.version.isSome) (connected : conversation.connected = true) :
      Move reliable conversation { conversation with phase := .phase2InnerAuth }
  | received {conversation} (tlvs : List TeapTlv) : Move reliable conversation (conversation.record (.received tlvs))
  | sent {conversation} (tlvs : List TeapTlv) : Move reliable conversation (conversation.record (.sent tlvs))
  | consulted {conversation} {handler : Handler} {tlv : TeapTlv}
      (running : conversation.innerMethod = some handler)
      (asked : tlv = IdentityType.user.toTlv ∨
        conversation.phase = .phase2InnerAuth ∧ ∃ tlvs, .received tlvs ∈ conversation.journal ∧ tlv ∈ tlvs) :
      Move reliable conversation
        { conversation.record (.consulted tlv (inner.processInnerRequest handler tlv).1) with
          innerMethod := some (inner.processInnerRequest handler tlv).2 }
  | reported {conversation} {result : TeapResult} (inTurn : conversation.phase = .phase2InnerAuth)
      (verdict : conversation.Verdict inner result) :
      Move reliable conversation (conversation.record (.reported result))
  | prepared {conversation} (binding : CryptoBinding) (inTurn : conversation.phase = .phase2InnerAuth) :
      Move reliable conversation { conversation with cryptoBinding := some binding }
  | concluded {conversation} {result : TeapResult} {tlvs : List TeapTlv}
      (inTurn : conversation.phase = .phase2InnerAuth) (verdict : .reported result ∈ conversation.journal)
      (announces : conversation.Announces hmacs tlvs result) :
      Move reliable conversation
        { conversation.record (.sent tlvs) with sentResult := some result, phase := .phase2ResultSent }
  | unsent {conversation} {result : TeapResult} (inTurn : conversation.phase = .phase2InnerAuth)
      (verdict : .reported result ∈ conversation.journal)
      (lost : ¬ (reliable ∧ conversation.connected = true)) :
      Move reliable conversation { conversation with sentResult := some result, phase := .phase2ResultSent }
  | bound {conversation} {binding : CryptoBinding} (nonce : Block 32)
      (awaited : conversation.phase = .phase2ResultSent) (success : conversation.sentResult = some .success)
      (current : conversation.cryptoBinding = some binding) :
      Move reliable conversation
        { conversation with cryptoBinding := some { binding with clientNonce := some nonce }, bound := true }
  | acknowledged {conversation} {result : TeapResult} {tlvs : List TeapTlv}
      (awaited : conversation.phase = .phase2ResultSent) (heard : .received tlvs ∈ conversation.journal)
      (acknowledges : conversation.Acknowledges hmacs tlvs result) :
      Move reliable conversation { conversation with peerResult := some result, phase := .complete }

/-- Nothing is bound or answered before the server has announced its result,
and what it has announced and been answered is in the journal. -/
structure Sound (reliable : Prop) (conversation : Conversation Handler) : Prop where
  tunnelled : conversation.phase ≠ .phase1TlsHandshake →
    conversation.version.isSome ∧ conversation.connected = true
  early : conversation.phase = .phase1TlsHandshake ∨ conversation.phase = .phase2InnerAuth →
    conversation.sentResult = none ∧ conversation.peerResult = none ∧ conversation.bound = false
  awaiting : conversation.phase ≠ .complete → conversation.peerResult = none
  reported : ∀ result, conversation.sentResult = some result → .reported result ∈ conversation.journal
  announced : reliable → ∀ result, conversation.sentResult = some result →
    ∃ tlvs, .sent tlvs ∈ conversation.journal ∧ conversation.Announces hmacs tlvs result
  acknowledged : ∀ result, conversation.peerResult = some result →
    ∃ tlvs, .received tlvs ∈ conversation.journal ∧ conversation.Acknowledges hmacs tlvs result

namespace Sound

variable {hmacs inner} {reliable : Prop} {conversation after : Conversation Handler} {journal : List TeapEvent}
  {result : TeapResult}

theorem ofEarly
    (tunnelled : conversation.phase ≠ .phase1TlsHandshake → conversation.version.isSome ∧ conversation.connected = true)
    (early : conversation.sentResult = none ∧ conversation.peerResult = none ∧ conversation.bound = false) :
    Sound hmacs reliable conversation where
  tunnelled := tunnelled
  early := fun _ => early
  awaiting := fun _ => early.2.1
  reported := fun result sent => by cases early.1.symm.trans sent
  announced := fun _ result sent => by cases early.1.symm.trans sent
  acknowledged := fun result answered => by cases early.2.1.symm.trans answered

section

variable (sound : Sound hmacs reliable conversation)

include sound

theorem extend (grows : conversation.journal ⊆ journal)
    (innerMethod : Option Handler) : Sound hmacs reliable { conversation with journal, innerMethod } where
  tunnelled := sound.tunnelled
  early := sound.early
  awaiting := sound.awaiting
  reported := fun result sent => grows (sound.reported result sent)
  announced := fun holds result sent => by
    obtain ⟨tlvs, logged, announces⟩ := sound.announced holds result sent
    exact ⟨tlvs, grows logged, announces.congr rfl rfl rfl rfl⟩
  acknowledged := fun result answered => by
    obtain ⟨tlvs, logged, acknowledges⟩ := sound.acknowledged result answered
    exact ⟨tlvs, grows logged, acknowledges.congr rfl rfl rfl rfl⟩

theorem record (event : TeapEvent) :
    Sound hmacs reliable (conversation.record event) :=
  sound.extend (List.subset_append_left _ _) conversation.innerMethod

theorem concluded (inTurn : conversation.phase = .phase2InnerAuth)
    (verdict : .reported result ∈ journal)
    (announced : reliable → ∃ tlvs, .sent tlvs ∈ journal ∧ conversation.Announces hmacs tlvs result) :
    Sound hmacs reliable
      { conversation with journal, sentResult := some result, phase := .phase2ResultSent } where
  tunnelled := fun _ => sound.tunnelled (by rw [inTurn]; simp)
  early := fun earlier => by rcases earlier with earlier | earlier <;> cases earlier
  awaiting := fun _ => (sound.early (.inr inTurn)).2.1
  reported := fun other sent => by
    cases sent
    exact verdict
  announced := fun holds other sent => by
    cases sent
    obtain ⟨tlvs, logged, announces⟩ := announced holds
    exact ⟨tlvs, logged, announces.congr rfl rfl rfl rfl⟩
  acknowledged := fun other answered => by cases (sound.early (.inr inTurn)).2.1.symm.trans answered

theorem rebound {binding : CryptoBinding} (nonce : Block 32)
    (awaited : conversation.phase = .phase2ResultSent) (success : conversation.sentResult = some .success)
    (current : conversation.cryptoBinding = some binding) :
    Sound hmacs reliable { conversation with
      cryptoBinding := some { binding with clientNonce := some nonce }
      bound := true } where
  tunnelled := sound.tunnelled
  early := fun earlier => by
    rw [awaited] at earlier
    rcases earlier with earlier | earlier <;> cases earlier
  awaiting := sound.awaiting
  reported := sound.reported
  announced := fun holds result sent => by
    obtain ⟨tlvs, logged, announces⟩ := sound.announced holds result sent
    cases success.symm.trans sent
    obtain ⟨round, named, message⟩ := announces
    cases current.symm.trans named
    exact ⟨tlvs, logged, _, rfl, message⟩
  acknowledged := fun result answered => by
    cases (sound.awaiting (by rw [awaited]; simp)).symm.trans answered

theorem acknowledge (awaited : conversation.phase = .phase2ResultSent)
    (heard : .received tlvs ∈ conversation.journal) (acknowledges : conversation.Acknowledges hmacs tlvs result) :
    Sound hmacs reliable { conversation with peerResult := some result, phase := .complete } where
  tunnelled := fun _ => sound.tunnelled (by rw [awaited]; simp)
  early := fun earlier => by rcases earlier with earlier | earlier <;> cases earlier
  awaiting := fun later => absurd rfl later
  reported := sound.reported
  announced := fun holds other sent => by
    obtain ⟨message, logged, announces⟩ := sound.announced holds other sent
    exact ⟨message, logged, announces.congr rfl rfl rfl rfl⟩
  acknowledged := fun other answered => by
    cases answered
    exact ⟨tlvs, heard, acknowledges.congr rfl rfl rfl rfl⟩

theorem move (moved : Move hmacs inner reliable conversation after) :
    Sound hmacs reliable after := by
  cases moved with
  | negotiated outerTlvs first =>
    -- The version is negotiated during the handshake, before any result.
    have handshake : conversation.phase = .phase1TlsHandshake := by
      refine Classical.byContradiction fun later => ?_
      have known := (sound.tunnelled later).1
      rw [first] at known
      cases known
    exact ofEarly (fun later => absurd handshake later) (sound.early (.inl handshake))
  | tunnelled handshake known connected =>
    exact ofEarly (fun _ => ⟨known, connected⟩) (sound.early (.inl handshake))
  | received tlvs | sent tlvs => exact sound.record _
  | consulted running asked => exact sound.extend (List.subset_append_left _ _) _
  | reported inTurn verdict => exact sound.record _
  | prepared binding inTurn => exact ofEarly sound.tunnelled (sound.early (.inr inTurn))
  | concluded inTurn verdict announces =>
    exact sound.concluded inTurn (List.mem_append_left _ verdict) fun _ =>
      ⟨_, List.mem_append_right _ List.mem_cons_self, announces⟩
  | unsent inTurn verdict lost =>
    have connected := (sound.tunnelled (by rw [inTurn]; simp)).2
    exact sound.concluded inTurn verdict fun holds => absurd ⟨holds, connected⟩ lost
  | bound nonce awaited success current => exact sound.rebound nonce awaited success current
  | acknowledged awaited heard acknowledges => exact sound.acknowledge awaited heard acknowledges

end

end Sound

end Conversation

end UsgRadius.Eap
