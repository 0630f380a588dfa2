import UsgRadius.Server.Answers
import UsgRadius.Server.Unauthenticated

namespace UsgRadius.Server

open Data Program Auth Policy Salted Mppe Proxy Packet PolicyEnforce MppeKeys
open AttributeType (messageAuthenticator vendorSpecific proxyState)

variable {attrType : UInt8}

/-! What every freshly computed reply is to the client that reads it, whatever the
handlers return and the policy decides. -/

/-- An attribute that a handler may return: one that fits the wire, and none of
those that the server adds itself. -/
structure Plain (attr : Attribute) : Prop where
  fits : attr.Fits
  unsigned : attr.attrType ≠ messageAuthenticator.asU8
  stateless : attr.attrType ≠ proxyState.asU8
  keyless : ∀ sub ∈ (vendorSubs attr).getD [], isMppeKey sub = false

def PlainResult : AuthResult → Prop
  | .accept attributes _ => ∀ attr ∈ attributes, Plain attr
  | .challenge _ _ attributes => ∀ attr ∈ attributes, Plain attr
  | .reject => True
  | .discard => True

/-- What the duplicate cache, the authentication and the policy have answered. -/
structure Heard where
  admission : Option Admission
  result : Option AuthResult
  policy : Option (Option PolicyConfig)

def Heard.nothing : Heard where
  admission := none
  result := none
  policy := none

def chapResult (passed : Bool) : AuthResult :=
  if passed then .accept [] none else .reject

/-- Every handler that returns plain attributes, every router and every policy. -/
def Hears : Program.Semantics Effect Heard
  | _, .admitRequest _ _ _, heard, admission, after => after = { heard with admission := some admission }
  | _, .authenticateChap _ _ _, heard, passed, after => after = { heard with result := some (chapResult passed) }
  | _, .authenticateRequestFrom _ _ _, heard, result, after =>
    PlainResult result ∧ after = { heard with result := some result }
  | _, .getAcceptAttributes _, heard, attributes, after => (∀ attr ∈ attributes, Plain attr) ∧ after = heard
  | _, .getChallengeAttributes _, heard, attributes, after => (∀ attr ∈ attributes, Plain attr) ∧ after = heard
  | _, .getRejectAttributes _, heard, attributes, after => (∀ attr ∈ attributes, Plain attr) ∧ after = heard
  | _, .readPolicy, heard, policy, after => after = { heard with policy := some policy }
  | _, _, heard, _, after => after = heard

def mskKeys (msk : Octets) : MppeKeys where
  recvKey := msk.take 32
  sendKey := (msk.take 64).drop 32

structure Authenticated (digests : Digests) (request : Packet) (secret : Octets) (reply : Packet) : Prop where
  identifier : reply.identifier = request.identifier
  authentic : verifyResponseAuthenticator digests reply request.authenticator secret = .ok true
  proxyStates : proxyStates reply = proxyStates request
  signed : reply.findAttribute AttributeType.eapMessage.asU8 ≠ none ∨ request.code = .statusServer →
    checkMessageAuthenticator digests reply request.authenticator secret = .ok .valid

/-- The reply of the policy in place of an Access-Accept: nothing in it is from the
handlers. -/
structure RejectedByPolicy (server : ServerConfig) (request : Packet) (policy : Option (Option PolicyConfig))
    (reply : Packet) : Prop where
  decided : ∃ inForce username decision signature, policy = some inForce ∧
    decide? server inForce request username = some decision ∧ decision.effect = .reject ∧
    reply.attributes =
      policyEapFailure request ++ replyMessage decision.replyMessage ++ Server.proxyStates request ++ signature ∧
    ∀ attr ∈ signature, attr.attrType = messageAuthenticator.asU8
  keyless : mppeKeySubs reply = []

structure FreshReply (server : ServerConfig) (request : Packet) (secret : Octets) (heard : Heard) (reply : Packet) :
    Prop extends Authenticated server.digests request secret reply where
  keys : ∀ attributes msk, heard.result = some (.accept attributes (some msk)) → reply.code = .accessAccept →
    64 ≤ msk.length ∧
      fromPacket server.digests reply secret request.authenticator = .ok (some (mskKeys msk))
  rejected : ∀ attributes msk, heard.result = some (.accept attributes msk) → reply.code = .accessReject →
    RejectedByPolicy server request heard.policy reply

structure Drafted (request response : Packet) : Prop where
  identifier : response.identifier = request.identifier
  own : ∀ attr ∈ response.attributes,
    attr.attrType ≠ messageAuthenticator.asU8 ∧ attr.attrType ≠ proxyState.asU8

section End

variable {digests : Digests} {request response reply : Packet} {secret : Octets} {required : Prop}

theorem filter_other {attributes : List Attribute} (others : ∀ attr ∈ attributes, attr.attrType ≠ attrType) :
    attributes.filter (·.attrType = attrType) = [] :=
  List.filter_eq_nil_iff.mpr fun attr member => by simpa using others attr member

section

variable (finishes : Finishes digests request secret response required reply)

include finishes

theorem Finishes.proxyStates_eq
    (drafted : Drafted request response) : proxyStates reply = proxyStates request := by
  obtain ⟨signature, attributes, macs⟩ := finishes.attributes
  have own : response.attributes.filter (·.attrType = proxyState.asU8) = [] :=
    filter_other fun attr member => (drafted.own attr member).2
  have mac : signature.filter (·.attrType = proxyState.asU8) = [] := by
    refine filter_other fun attr member => ?_
    rw [macs attr member]
    decide
  simp only [proxyStates, findAllAttributes] at attributes ⊢
  rw [attributes, List.filter_append, List.filter_append, own, mac, List.nil_append, List.append_nil,
    List.filter_filter]
  simp

theorem Finishes.findVendorAttributes
    (vendorId : UInt32) (vendorType : UInt8) :
    reply.findVendorAttributes vendorId vendorType = response.findVendorAttributes vendorId vendorType := by
  obtain ⟨signature, attributes, macs⟩ := finishes.attributes
  have states : (proxyStates request).flatMap (subsOf vendorId vendorType) = [] := by
    refine List.flatMap_eq_nil_iff.mpr fun attr member => subsOf_other ?_
    rw [(proxyStates_type member).2]
    decide
  have mac : signature.flatMap (subsOf vendorId vendorType) = [] := by
    refine List.flatMap_eq_nil_iff.mpr fun attr member => subsOf_other ?_
    rw [macs attr member]
    decide
  rw [findVendorAttributes_eq, findVendorAttributes_eq, attributes, List.flatMap_append,
    List.flatMap_append, states, mac, List.append_nil, List.append_nil]

theorem Finishes.carriesEap_of_reply
    (carries : reply.findAttribute AttributeType.eapMessage.asU8 ≠ none) :
    carriesEap (copyProxyState request response) := by
  obtain ⟨signature, attributes, macs⟩ := finishes.attributes
  have mac : hasAttribute AttributeType.eapMessage.asU8 signature = false := by
    refine List.any_eq_false.mpr fun attr member => ?_
    rw [macs attr member]
    decide
  have present := findAttribute_iff.mp carries
  rw [attributes, hasAttribute, List.any_append, Bool.or_eq_true] at present
  rcases present with present | impossible
  · rw [carriesEap, copyProxyState, addAttributes_eq]
    exact present
  · exact absurd (impossible.symm.trans mac) (by decide)

theorem Finishes.authenticated
    (drafted : Drafted request response)
    (needed : reply.findAttribute AttributeType.eapMessage.asU8 ≠ none ∨ request.code = .statusServer → required) :
    Authenticated digests request secret reply where
  identifier := finishes.identifier.trans drafted.identifier
  authentic := finishes.authentic
  proxyStates := finishes.proxyStates_eq drafted
  signed reason := finishes.signed (needed reason)

end

theorem Drafted.unsigned (drafted : Drafted request response) : Unsigned response.attributes :=
  fun attr member => (drafted.own attr member).1

theorem Drafted.finishAccess (drafted : Drafted request response)
    (finished : finishAccess digests request response secret = .ok reply) (encodable : reply.Encodable) :
    Finishes digests request secret response (carriesEap (copyProxyState request response)) reply :=
  finish_finishes signs_access drafted.unsigned finished encodable

theorem finishAccess_authenticated (isAccess : request.code = .accessRequest)
    (finished : finishAccess digests request response secret = .ok reply) (encodable : reply.Encodable)
    (drafted : Drafted request response) : Authenticated digests request secret reply := by
  have finishes := drafted.finishAccess finished encodable
  refine finishes.authenticated drafted fun reason => ?_
  rcases reason with carries | isStatus
  · exact finishes.carriesEap_of_reply carries
  · exact absurd (isAccess.symm.trans isStatus) (by decide)

end End

variable {message : Option String}

section Drafts

variable {server : ServerConfig} {request response : Packet} {secret : Octets} {attr : Attribute} {decision : Decision}
  {attributes : List Attribute}

theorem optional_type {value : Octets} (member : attr ∈ optional (Attribute.new attrType value)) :
    attr.attrType = attrType := by
  simp only [optional, Option.mem_toList] at member
  exact (new_toOption member).2

theorem replyMessage_type (member : attr ∈ replyMessage message) : attr.attrType = AttributeType.replyMessage.asU8 := by
  cases message with
  | none => cases member
  | some text => exact optional_type member

theorem policyEapFailure_type (member : attr ∈ policyEapFailure request) :
    attr.attrType = AttributeType.eapMessage.asU8 := by
  unfold policyEapFailure at member
  split at member
  · cases member
  · exact optional_type member

theorem rejectEapMessage_type (member : attr ∈ rejectEapMessage request) :
    attr.attrType = AttributeType.eapMessage.asU8 := by
  unfold rejectEapMessage at member
  split at member
  · split at member <;> exact optional_type member
  · cases member

theorem policyReject_type (member : attr ∈ (policyReject request decision).attributes) :
    attr.attrType = AttributeType.eapMessage.asU8 ∨ attr.attrType = AttributeType.replyMessage.asU8 := by
  rw [policyReject_attributes, List.mem_append] at member
  exact member.imp policyEapFailure_type replyMessage_type

theorem foldl_addPolicyReplyAttribute_mem
    (member : attr ∈ (attributes.foldl addPolicyReplyAttribute response).attributes) :
    attr ∈ response.attributes ∨ attr ∈ attributes := by
  induction attributes generalizing response with
  | nil => exact .inl member
  | cons added rest ih =>
    rcases ih member with earlier | later
    · unfold addPolicyReplyAttribute at earlier
      split at earlier
      all_goals simp only [addAttribute, List.mem_append, List.mem_filter, List.mem_singleton] at earlier
      · exact earlier.imp And.left (List.mem_cons.mpr <| .inl ·)
      · exact earlier.imp id (List.mem_cons.mpr <| .inl ·)
    · exact .inr (List.mem_cons_of_mem _ later)

theorem foldl_addPolicyReplyAttribute_find (attributes : List Attribute) (response : Packet) (vendorId : UInt32)
    (vendorType : UInt8) (others : ∀ attr ∈ attributes, attr.attrType ≠ vendorSpecific.asU8) :
    (attributes.foldl addPolicyReplyAttribute response).findVendorAttributes vendorId vendorType =
      response.findVendorAttributes vendorId vendorType := by
  induction attributes generalizing response with
  | nil => rfl
  | cons added rest ih =>
    have own := @subsOf_other vendorId vendorType added (others added List.mem_cons_self)
    rw [List.foldl_cons, ih _ fun attr member => others attr (List.mem_cons_of_mem _ member),
      findVendorAttributes_eq, findVendorAttributes_eq]
    unfold addPolicyReplyAttribute
    split
    · simp only [addAttribute, List.flatMap_append, List.flatMap_cons, List.flatMap_nil, own, List.append_nil]
      refine Views.flatMap_filter (fun attr replaced => subsOf_other ?_) response.attributes
      have same : attr.attrType = added.attrType := by simpa using replaced
      rw [same]
      exact others added List.mem_cons_self
    · simp only [addAttribute, List.flatMap_append, List.flatMap_cons, List.flatMap_nil, own, List.append_nil]

theorem policyAccept_mem (member : attr ∈ (policyAccept decision response).attributes) :
    attr ∈ response.attributes ∨ attr.attrType ∈ replyTypes := by
  rw [policyAccept, addAttributes_eq, List.mem_append] at member
  rcases member with earlier | message
  · refine (foldl_addPolicyReplyAttribute_mem earlier).imp id fun returned => ?_
    obtain ⟨profile, _, built⟩ := List.mem_filterMap.mp returned
    exact (replyAttribute_typed built).2
  · rw [replyMessage_type message]
    exact .inr (by decide)

theorem policyAccept_find (decision : Decision) (response : Packet) (vendorId : UInt32) (vendorType : UInt8) :
    (policyAccept decision response).findVendorAttributes vendorId vendorType =
      response.findVendorAttributes vendorId vendorType := by
  have message : (replyMessage decision.replyMessage).flatMap (subsOf vendorId vendorType) = [] := by
    refine List.flatMap_eq_nil_iff.mpr fun attr member => subsOf_other ?_
    rw [replyMessage_type member]
    decide
  have others : ∀ attrType ∈ replyTypes, attrType ≠ vendorSpecific.asU8 := by
    decide +kernel
  have returned : ∀ attr ∈ decision.attributes.filterMap replyAttribute,
      attr.attrType ≠ vendorSpecific.asU8 := by
    intro attr member
    obtain ⟨profile, _, built⟩ := List.mem_filterMap.mp member
    exact others _ (replyAttribute_typed built).2
  rw [← foldl_addPolicyReplyAttribute_find _ response vendorId vendorType returned, findVendorAttributes_eq,
    findVendorAttributes_eq, policyAccept, addAttributes_eq, List.flatMap_append, message, List.append_nil]

theorem Drafted.enforce (drafted : Drafted request response) (decision : Option Decision) :
    Drafted request (enforce decision request response) := by
  rcases enforce_cases decision request response with same | ⟨rejected, _, _, same⟩ | ⟨accepted, same⟩
  · rw [same]
    exact drafted
  · rw [same]
    refine ⟨by simp [policyReject, new], fun attr member => ?_⟩
    rcases policyReject_type member with type | type <;> rw [type] <;> decide
  · rw [same]
    refine ⟨(policyAccept_header _ _).2.trans drafted.identifier, fun attr member => ?_⟩
    rcases policyAccept_mem member with earlier | returned
    · exact drafted.own attr earlier
    · have others : ∀ attrType ∈ replyTypes,
          attrType ≠ messageAuthenticator.asU8 ∧ attrType ≠ proxyState.asU8 := by
        decide +kernel
      exact others _ returned

theorem enforce_find {decision : Option Decision} (accepts : (enforce decision request response).code = .accessAccept)
    (vendorId : UInt32) (vendorType : UInt8) :
    (enforce decision request response).findVendorAttributes vendorId vendorType =
      response.findVendorAttributes vendorId vendorType := by
  rcases enforce_cases decision request response with same | ⟨rejected, _, _, same⟩ | ⟨accepted, same⟩
  · rw [same]
  · rw [same] at accepts
    simp [policyReject, new] at accepts
  · rw [same]
    exact policyAccept_find _ _ _ _

theorem policyReject_keyless (decision : Decision) (vendorId : UInt32) (vendorType : UInt8) :
    (policyReject request decision).findVendorAttributes vendorId vendorType = [] := by
  rw [findVendorAttributes_eq]
  refine List.flatMap_eq_nil_iff.mpr fun attr member => subsOf_other ?_
  rcases policyReject_type member with type | type <;> rw [type] <;> decide

theorem plain_keyless (plain : ∀ attr ∈ attributes, Plain attr) {vendorType : UInt8}
    (key : vendorType = msMppeSendKey ∨ vendorType = msMppeRecvKey) :
    attributes.flatMap (subsOf microsoftVendorId vendorType) = [] := by
  refine List.flatMap_eq_nil_iff.mpr fun attr member => List.filter_eq_nil_iff.mpr fun sub inside isKey => ?_
  have isKey : sub.vendorId = microsoftVendorId ∧ sub.vendorType = vendorType := by simpa using isKey
  have found : isMppeKey sub = true := isMppeKey_iff.mpr ⟨isKey.1, isKey.2 ▸ key⟩
  rw [(plain attr member).keyless sub inside] at found
  cases found

end Drafts

variable {sourceIp : IpAddr}

section Access

variable {server : ServerConfig} {request reply : Packet} {username : String} {secret msk : Octets}
  {before heard : Heard} {result : AuthResult} {attr : Attribute} {attributes : List Attribute}

theorem authenticateUser_hears
    (run : Runs Hears (authenticateUser request username secret sourceIp) before (.ok result) heard) :
    PlainResult result ∧ heard = { before with result := some result } := by
  unfold authenticateUser at run
  split at run
  · split at run
    · cases run
    · rw [ask_bind, runs_perform] at run
      obtain ⟨passed, _, rfl, run⟩ := run
      obtain ⟨same, rfl⟩ := runs_done.mp run
      cases same
      refine ⟨?_, rfl⟩
      cases passed with
      | false => trivial
      | true => exact fun attr none => absurd none List.not_mem_nil
  · obtain ⟨answer, same, plain, rfl⟩ := runs_ask.mp run
    cases same
    exact ⟨plain, rfl⟩

theorem fromMsk_eq_ok {keys : MppeKeys} : fromMsk msk = .ok keys ↔ 64 ≤ msk.length ∧ keys = mskKeys msk := by
  unfold fromMsk
  split
  next short =>
    simp only [minMskLength, mppeKeyLength] at short
    exact ⟨nofun, fun ⟨long, _⟩ => by omega⟩
  next long =>
    simp only [minMskLength, mppeKeyLength] at long
    refine ⟨fun split => ?_, fun ⟨_, same⟩ => ?_⟩
    · cases split
      exact ⟨by omega, rfl⟩
    · rw [same]
      rfl

theorem mskKeys_small (msk : Octets) :
    (mskKeys msk).sendKey.length ≤ maxKeyLength ∧ (mskKeys msk).recvKey.length ≤ maxKeyLength := by
  simp only [mskKeys, List.length_drop, List.length_take, maxKeyLength]
  omega

theorem keyAttributes_hears {msk : Option Octets} {keys : List Attribute}
    (run : Runs Hears (keyAttributes server request secret msk) before (.ok keys) heard) :
    heard = before ∧ (∀ attr ∈ keys, attr.attrType = vendorSpecific.asU8) ∧
      ∀ key, msk = some key → 64 ≤ key.length ∧ ∃ base,
        keys = [keyAttribute server.digests msMppeSendKey (mskKeys key).sendKey secret request.authenticator
            (saltAt base 0),
          keyAttribute server.digests msMppeRecvKey (mskKeys key).recvKey secret request.authenticator
            (saltAt base 1)] := by
  cases msk with
  | none =>
    obtain ⟨same, rfl⟩ := runs_done.mp run
    cases same
    exact ⟨rfl, fun attr none => absurd none List.not_mem_nil, nofun⟩
  | some msk =>
    rw [keyAttributes, ask_bind, runs_perform] at run
    obtain ⟨base, _, rfl, run⟩ := run
    obtain ⟨encrypted, rfl⟩ := runs_check.mp run
    simp only [liftError_eq_ok, orAuthFailed_eq_ok, Results.bind_eq_ok, fromMsk_eq_ok] at encrypted
    obtain ⟨_, ⟨long, rfl⟩, encrypted⟩ := encrypted
    rw [toAttributes_eq (mskKeys_small msk).1 (mskKeys_small msk).2] at encrypted
    cases encrypted
    refine ⟨rfl, by simp [keyAttribute], fun key same => ?_⟩
    cases same
    exact ⟨long, base, rfl⟩

theorem Plain.own (plain : Plain attr) :
    attr.attrType ≠ messageAuthenticator.asU8 ∧ attr.attrType ≠ proxyState.asU8 :=
  ⟨plain.unsigned, plain.stateless⟩

theorem fromPacket_accept {digests : Digests} {packet : Packet} {plain : List Attribute} {base : UInt16}
    (keyless : ∀ attr ∈ plain, Plain attr) (attributes : packet.attributes = plain ++
      [keyAttribute digests msMppeSendKey (mskKeys msk).sendKey secret request.authenticator (saltAt base 0),
        keyAttribute digests msMppeRecvKey (mskKeys msk).recvKey secret request.authenticator
          (saltAt base 1)]) :
    fromPacket digests packet secret request.authenticator = .ok (some (mskKeys msk)) := by
  obtain ⟨sendSmall, recvSmall⟩ := mskKeys_small msk
  have send := @keyAttribute_subs digests msMppeSendKey _ secret request.authenticator (saltAt base 0)
    sendSmall
  have recv := @keyAttribute_subs digests msMppeRecvKey _ secret request.authenticator (saltAt base 1)
    recvSmall
  refine fromPacket_sealed sendSmall recvSmall (saltAt_marked base 0) (saltAt_marked base 1) ?_ ?_
  · rw [findVendorAttributes_eq, attributes, List.flatMap_append, plain_keyless keyless (.inl rfl)]
    simp only [List.flatMap_cons, List.flatMap_nil, subsOf_single send, subsOf_single recv]
    rfl
  · rw [findVendorAttributes_eq, attributes, List.flatMap_append, plain_keyless keyless (.inr rfl)]
    simp only [List.flatMap_cons, List.flatMap_nil, subsOf_single send, subsOf_single recv]
    rfl

theorem answerAccept_fresh {msk : Option Octets} (isAccess : request.code = .accessRequest)
    (plain : ∀ attr ∈ attributes, Plain attr) (result : before.result = some (.accept attributes msk))
    (run : Runs Hears (answerAccept server request username secret attributes msk) before (.ok reply) heard)
    (encodable : reply.Encodable) : FreshReply server request secret heard reply := by
  obtain ⟨acceptAttributes, _, keys, _, policy, ⟨plainAccept, rfl⟩, sealing, rfl, finished⟩ := answerAccept_runs.mp run
  obtain ⟨rfl, vendor, sealedKeys⟩ := keyAttributes_hears sealing
  have handled : ∀ attr ∈ acceptAttributes ++ attributes, Plain attr :=
    fun attr member => (List.mem_append.mp member).elim (plainAccept attr) (plain attr)
  generalize drafting : ({ code := .accessAccept, identifier := request.identifier, authenticator := .zero 16
                           attributes := acceptAttributes ++ attributes ++ keys } : Packet) = response at finished
  have drafted : Drafted request response := by
    subst drafting
    refine ⟨rfl, fun attr member => ?_⟩
    rcases List.mem_append.mp member with own | key
    · exact (handled attr own).own
    · rw [vendor attr key]
      decide
  have enforced := drafted.enforce (decide? server policy request username)
  have finishes := enforced.finishAccess finished encodable
  refine ⟨finishAccess_authenticated isAccess finished encodable enforced, ?_, ?_⟩
  · intro accepted found same accepts
    cases result.symm.trans same
    obtain ⟨long, base, rfl⟩ := sealedKeys found rfl
    have find (vendorType : UInt8) : reply.findVendorAttributes microsoftVendorId vendorType =
        response.findVendorAttributes microsoftVendorId vendorType :=
      (finishes.findVendorAttributes _ _).trans (enforce_find (finishes.code.symm.trans accepts) _ _)
    refine ⟨long, (fromPacket_congr _ _ (find _) (find _)).trans ?_⟩
    subst drafting
    exact fromPacket_accept handled rfl
  · intro _ _ _ rejects
    obtain ⟨decision, decided, effect, same⟩ :=
      enforce_rejects (congrArg code drafting.symm) (finishes.code.symm.trans rejects)
    rw [same] at finishes
    obtain ⟨signature, whole, macs⟩ := finishes.attributes
    rw [policyReject_attributes] at whole
    refine ⟨⟨policy, username, decision, signature, rfl, decided, effect, whole, macs⟩, ?_⟩
    rw [mppeKeySubs, finishes.findVendorAttributes, finishes.findVendorAttributes, policyReject_keyless,
      policyReject_keyless]
    rfl

/-- Without an Access-Accept there are no keys to look for, and nothing for the
policy to reject. -/
theorem fresh_of_other (authenticated : Authenticated server.digests request secret reply)
    (heardResult : heard.result = some result) (other : ∀ attributes msk, result ≠ .accept attributes msk) :
    FreshReply server request secret heard reply where
  toAuthenticated := authenticated
  keys _ _ accepted _ := absurd (Option.some.inj (heardResult.symm.trans accepted)) (other _ _)
  rejected _ _ accepted _ := absurd (Option.some.inj (heardResult.symm.trans accepted)) (other _ _)

theorem challengeMessage_type (worded : challengeMessage message = .ok attributes) (member : attr ∈ attributes) :
    attr.attrType = AttributeType.replyMessage.asU8 := by
  cases message with
  | none =>
    cases worded
    cases member
  | some text =>
    simp only [challengeMessage, Results.bind_eq_ok, orAuthFailed_eq_ok, Results.pure_eq, Except.ok.injEq] at worded
    obtain ⟨built, encoded, rfl⟩ := worded
    rw [List.mem_singleton.mp member, (Attribute.new_eq_ok.mp encoded).2]

theorem answer_fresh (isAccess : request.code = .accessRequest) (plain : PlainResult result)
    (heardResult : before.result = some result)
    (run : Runs Hears (answer server request username secret result) before (.ok reply) heard)
    (encodable : reply.Encodable) : FreshReply server request secret heard reply := by
  cases result with
  | accept attributes msk => exact answerAccept_fresh isAccess plain heardResult run encodable
  | discard => cases run
  | reject =>
    obtain ⟨rejectAttributes, ⟨plainReject, rfl⟩, finished⟩ := answerReject_runs.mp run
    refine fresh_of_other (finishAccess_authenticated isAccess finished encodable ⟨rfl, fun attr member => ?_⟩)
      heardResult nofun
    rcases List.mem_append.mp member with eap | own
    · rw [rejectEapMessage_type eap]
      decide
    · exact (plainReject attr own).own
  | challenge message state attributes =>
    obtain ⟨stateAttr, messageAttrs, challengeAttributes, framed, worded, ⟨plainChallenge, rfl⟩, finished⟩ :=
      answerChallenge_runs.mp run
    refine fresh_of_other (finishAccess_authenticated isAccess finished encodable ⟨rfl, fun attr member => ?_⟩)
      heardResult nofun
    simp only [List.cons_append, List.mem_cons, List.mem_append] at member
    rcases member with rfl | (text | own) | own
    · rw [show attr.attrType = AttributeType.state.asU8 by rw [(Attribute.new_eq_ok.mp framed).2]]
      decide
    · rw [challengeMessage_type worded text]
      decide
    · exact (plain attr own).own
    · exact (plainChallenge attr own).own

theorem handleAccessRequest_fresh {source : SocketAddr} (isAccess : request.code = .accessRequest)
    (run : Runs Hears (handleAccessRequest server request source secret) before (.ok reply) heard)
    (encodable : reply.Encodable) : FreshReply server request secret heard reply := by
  rw [handleAccessRequest, runs_bind_ok] at run
  obtain ⟨_, _, routed, run⟩ := run
  rw [runs_bind_ok] at run
  obtain ⟨username, _, _, run⟩ := run
  rw [runs_bind_ok] at run
  obtain ⟨result, _, authenticated, run⟩ := run
  obtain ⟨plain, rfl⟩ := authenticateUser_hears authenticated
  exact answer_fresh isAccess plain rfl run encodable

end Access

section Pipeline

variable {server : ServerConfig} {received : Received} {reply request : Packet} {source : SocketAddr}
  {secret bytes : Octets} {role : PortRole} {before heard : Heard} {fingerprint : RequestFingerprint}
  {digest : Block 32}

theorem drafted_empty (request : Packet) (code : Code) : Drafted request (.new code request.identifier (.zero 16)) :=
  ⟨rfl, fun _ none => absurd none List.not_mem_nil⟩

theorem handleAccountingRequest_authenticated (isAccounting : request.code = .accountingRequest)
    (run : Runs Hears (handleAccountingRequest server request sourceIp secret) before (.ok reply) heard)
    (encodable : reply.Encodable) : Authenticated server.digests request secret reply ∧ heard = before := by
  rw [handleAccountingRequest, runs_bind_ok] at run
  obtain ⟨call, _, called, run⟩ := run
  obtain ⟨_, rfl⟩ := runs_check.mp called
  rw [ask_bind, runs_perform] at run
  obtain ⟨handled, _, rfl, run⟩ := run
  rw [runs_bind_ok] at run
  obtain ⟨_, _, recorded, run⟩ := run
  obtain ⟨_, rfl⟩ := runs_check.mp recorded
  obtain ⟨finished, rfl⟩ := runs_check.mp run
  have drafted := drafted_empty request .accountingResponse
  have finishes := finish_finishes signs_accounting drafted.unsigned finished encodable
  refine ⟨finishes.authenticated drafted fun reason => ?_, rfl⟩
  rcases reason with carries | isStatus
  · have present := finishes.carriesEap_of_reply carries
    rw [carriesEap, copyProxyState, addAttributes_eq, hasAttribute, List.any_eq_true] at present
    obtain ⟨attr, member, isEap⟩ := present
    rw [(proxyStates_type (by simpa [new] using member)).2] at isEap
    exact absurd isEap (by decide)
  · exact absurd (isAccounting.symm.trans isStatus) (by decide)

theorem dispatch_fresh (authentic : Authentic server secret role received) (unheard : before.result = none)
    (run : Runs Hears (dispatch server received source secret) before (.ok (some reply)) heard)
    (encodable : reply.Encodable) : FreshReply server received.request secret heard reply := by
  have without (authenticated : Authenticated server.digests received.request secret reply) (same : heard = before) :
      FreshReply server received.request secret heard reply := by
    refine ⟨authenticated, fun attributes msk accepted => ?_, fun attributes msk accepted => ?_⟩
    all_goals
      rw [same, unheard] at accepted
      cases accepted
  unfold dispatch at run
  split at run
  next isAccess =>
    rw [runs_attempt_bind] at run
    obtain ⟨outcome, _, handled, run⟩ := run
    cases outcome with
    | ok response =>
      obtain ⟨same, rfl⟩ := runs_done.mp run
      cases same
      exact handleAccessRequest_fresh isAccess handled encodable
    | error reason =>
      cases reason with
      | panic cause => cases run
      | error cause => cases cause <;> cases run
  next isAccounting =>
    rw [runs_bind_ok] at run
    obtain ⟨response, _, handled, run⟩ := run
    obtain ⟨same, rfl⟩ := runs_done.mp run
    cases same
    obtain ⟨authenticated, same⟩ := handleAccountingRequest_authenticated isAccounting handled encodable
    exact without authenticated same
  next isStatus =>
    obtain ⟨same, still⟩ := runs_done.mp run
    obtain ⟨_, response, kept, finished⟩ := authentic.status isStatus
    cases (Except.ok.inj same).trans kept
    have finishes := finish_finishes signs_status (drafted_empty _ _).unsigned finished encodable
    exact without (finishes.authenticated (drafted_empty _ _) fun _ => trivial) still
  next => cases run

theorem keepReply_hears (run : Runs Hears (keepReply request fingerprint digest bytes) before (.ok ()) heard) :
    heard = before := by
  unfold keepReply at run
  split at run
  · obtain ⟨_, _, same⟩ := runs_ask.mp run
    exact same
  · exact (runs_done.mp run).2

theorem processNew_fresh (authentic : Authentic server secret role received) (unheard : before.result = none)
    (run : Runs Hears (processNew server received source secret fingerprint digest) before (.ok (some bytes)) heard) :
    ∃ reply, decode bytes = .ok reply ∧ FreshReply server received.request secret heard reply := by
  rw [processNew, runs_bind_ok] at run
  obtain ⟨response, _, dispatched, run⟩ := run
  cases response with
  | none => cases run
  | some response =>
    dsimp only at run
    rw [runs_bind_ok] at run
    obtain ⟨encoded, _, checked, run⟩ := run
    obtain ⟨encodes, rfl⟩ := runs_check.mp checked
    rw [liftError_eq_ok, liftPacket_eq_ok, encode_eq_ok] at encodes
    obtain ⟨encodable, rfl⟩ := encodes
    rw [runs_bind_ok] at run
    obtain ⟨_, _, kept, run⟩ := run
    obtain ⟨same, rfl⟩ := runs_done.mp run
    cases same
    obtain rfl := keepReply_hears kept
    exact ⟨response, decode_eq_ok.mpr ⟨encodable, List.prefix_rfl⟩,
      dispatch_fresh authentic unheard dispatched encodable⟩

end Pipeline

/-- A reply that was not taken from the duplicate cache. -/
theorem reply_fresh (server : ServerConfig) {data secret bytes : Octets} {source : SocketAddr} {role : PortRole}
    {heard : Heard} (run : Runs Hears (processRequest server data source secret role) .nothing (.ok (some bytes)) heard)
    (computed : heard.admission = some .new) :
    ∃ request reply, decode data = .ok request ∧ decode bytes = .ok reply ∧
      FreshReply server request secret heard reply := by
  rw [processRequest, runs_bind_ok] at run
  obtain ⟨received, _, checked, run⟩ := run
  obtain ⟨passed, rfl⟩ := runs_check.mp checked
  cases received with
  | none => cases run
  | some received =>
    obtain ⟨decoded, _, _, authentic⟩ := receive_eq_some passed
    dsimp only [processReceived] at run
    rw [ask_bind, runs_perform] at run
    obtain ⟨admission, _, rfl, run⟩ := run
    cases admission with
    | new =>
      obtain ⟨reply, decodes, fresh⟩ := processNew_fresh authentic rfl run
      exact ⟨received.request, reply, decoded, decodes, fresh⟩
    | replay kept =>
      dsimp only at run
      split at run
      · obtain ⟨_, rfl⟩ := runs_done.mp run
        cases computed
      · cases run
    | inProgress | conflict => cases run

def keyedRequest : Packet where
  code := .accessRequest
  identifier := 7
  authenticator := .fill 16 9
  attributes := [⟨AttributeType.userName.asU8, [98, 111, 98]⟩, ⟨AttributeType.nasIpAddress.asU8, [192, 0, 2, 1]⟩,
    ⟨AttributeType.userPassword.asU8, List.replicate 16 1⟩, ⟨proxyState.asU8, [5, 6]⟩]

def acceptAll : (Answer : Type) → Effect Answer → Heard → Answer × Heard
  | _, .admitRequest _ _ _, heard => (.new, { heard with admission := some .new })
  | _, .storeReply _ _ _, heard => ((), heard)
  | _, .routeRequest _, heard => (none, heard)
  | _, .forwardRequest _ _ _ _, heard => (.ok (), heard)
  | _, .authenticateChap _ _ _, heard => (false, { heard with result := some (chapResult false) })
  | _, .authenticateRequestFrom _ _ _, heard =>
    (.accept [] (some (List.replicate 64 3)), { heard with result := some (.accept [] (some (List.replicate 64 3))) })
  | _, .getAcceptAttributes _, heard => ([], heard)
  | _, .getChallengeAttributes _, heard => ([], heard)
  | _, .getRejectAttributes _, heard => ([], heard)
  | _, .readPolicy, heard => (none, { heard with policy := some none })
  | _, .drawSalt, heard => (4, heard)
  | _, .account _, heard => (.ok .success, heard)

theorem acceptAll_hears (Answer : Type) (effect : Effect Answer) (heard : Heard) :
    Hears Answer effect heard (acceptAll Answer effect heard).1 (acceptAll Answer effect heard).2 := by
  have nothing : ∀ attr ∈ ([] : List Attribute), Plain attr := fun _ none => absurd none List.not_mem_nil
  cases effect <;> first | rfl | exact ⟨nothing, rfl⟩

theorem keyedRequest_fresh :
    ∃ bytes heard, Runs Hears (processRequest sampleServer keyedRequest.bytes sampleSource [1, 2] .auth) .nothing
        (.ok (some bytes)) heard ∧ heard.admission = some .new ∧
      ∃ request reply, decode keyedRequest.bytes = .ok request ∧ decode bytes = .ok reply ∧
        FreshReply sampleServer request [1, 2] heard reply := by
  have ran := eval_runs acceptAll_hears (processRequest sampleServer keyedRequest.bytes sampleSource [1, 2] .auth)
    .nothing
  have answered : (((processRequest sampleServer keyedRequest.bytes sampleSource [1, 2] .auth).eval acceptAll
      .nothing).1.toOption.bind id).isSome = true := by decide +kernel
  have computed : ((processRequest sampleServer keyedRequest.bytes sampleSource [1, 2] .auth).eval acceptAll
      .nothing).2.admission = some .new := by decide +kernel
  generalize (processRequest sampleServer keyedRequest.bytes sampleSource [1, 2] .auth).eval acceptAll .nothing =
    ended at ran answered computed
  obtain ⟨outcome, heard⟩ := ended
  match outcome, answered with
  | .ok (some bytes), _ => exact ⟨bytes, heard, ran, computed, reply_fresh sampleServer ran computed⟩

end UsgRadius.Server
