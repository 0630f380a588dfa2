import UsgRadius.Eap.PacketCodec
import UsgRadius.Server.Answers

namespace UsgRadius.Server

open Data Program Auth Policy Eap PolicyEnforce Attribute

/-! An EAP packet that is split over several EAP-Message attributes, and the parts
of the server that look at the first of them only. -/

def eapOctets (packet : Packet) : Octets :=
  (packet.attributes.filter fun attr => attr.attrType = AttributeType.eapMessage.asU8).flatMap value

def eapFromRadiusPacket (packet : Packet) : Except EapError (Option EapPacket) :=
  if eapOctets packet = [] then
    .ok none
  else do
    let eap ← EapPacket.fromBytes (eapOctets packet)
    return some eap

section Reassembly

variable {packet : Packet} {eap : EapPacket} {first bytes : Octets}

theorem eapFromRadiusPacket_eq_some :
    eapFromRadiusPacket packet = .ok (some eap) ↔ EapPacket.fromBytes (eapOctets packet) = .ok eap := by
  unfold eapFromRadiusPacket
  split
  next none =>
    rw [none]
    exact ⟨nofun, nofun⟩
  next => simp [Results.bind_eq_ok]

theorem firstEapMessage_eq_some (found : firstEapMessage packet = some first) :
    ∃ rest, eapOctets packet = first ++ rest := by
  obtain ⟨attr, isFirst, rfl⟩ := Option.map_eq_some_iff.mp found
  rw [Packet.findAttribute, ← List.head?_filter] at isFirst
  obtain ⟨rest, split⟩ := List.head?_eq_some_iff.mp isFirst
  exact ⟨rest.flatMap value, by rw [eapOctets, split, List.flatMap_cons]⟩

theorem firstEapMessage_eq_none (missing : firstEapMessage packet = none) : eapOctets packet = [] := by
  rw [firstEapMessage, Option.map_eq_none_iff, Packet.findAttribute, ← List.head?_filter,
    List.head?_eq_none_iff] at missing
  rw [eapOctets, missing, List.flatMap_nil]

theorem fromBytes_eq_ok (parsed : EapPacket.fromBytes bytes = .ok eap) :
    4 ≤ bytes.length ∧ bytes.getD 0 0 = eap.code.asU8 ∧ bytes.getD 1 0 = eap.identifier := by
  match bytes with
  | [] | [_] | [_, _] | [_, _, _] => exact absurd parsed (EapPacket.fromBytes_short (by simp))
  | code :: identifier :: high :: low :: rest =>
    obtain ⟨sameCode, sameIdentifier, _⟩ := EapPacket.fromBytes_cons.mp parsed
    exact ⟨by simp, sameCode, sameIdentifier⟩

end Reassembly

/-- The Nak that offers no method. -/
def nak (identifier : UInt8) : EapPacket where
  code := .response
  identifier
  eapType := some .nak
  data := [0]

/-- How an EAP packet is rejected: an EAP-Request by a Nak, anything else by an
EAP-Failure. -/
def rejection (eap : EapPacket) : EapPacket :=
  if eap.code = .request then nak eap.identifier else .failure eap.identifier

theorem failure_formed (identifier : UInt8) : (EapPacket.failure identifier).WellFormed :=
  ⟨rfl, fun _ => rfl⟩

theorem rejection_formed (eap : EapPacket) : (rejection eap).WellFormed := by
  unfold rejection
  split
  · exact ⟨rfl, nofun⟩
  · exact failure_formed _

variable {attributes : List Attribute}

section Carried

variable {digests : Digests} {request response reply : Packet} {secret : Octets} {eap : EapPacket}

def eapView (attr : Attribute) : Octets :=
  if attr.attrType = AttributeType.eapMessage.asU8 then attr.value else []

theorem eapOctets_eq (packet : Packet) : eapOctets packet = packet.attributes.flatMap eapView := by
  rw [eapOctets]
  induction packet.attributes with
  | nil => rfl
  | cons attr rest ih =>
    by_cases carries : attr.attrType = AttributeType.eapMessage.asU8
    · rw [List.filter_cons_of_pos (by simpa using carries), List.flatMap_cons, List.flatMap_cons, ih, eapView,
        if_pos carries]
    · rw [List.filter_cons_of_neg (by simpa using carries), List.flatMap_cons, ih, eapView, if_neg carries,
        List.nil_append]

theorem addMessageAuthenticator_eap {requestAuthenticator : Block 16}
    (signed : addMessageAuthenticator digests response requestAuthenticator secret = .ok reply) :
    reply.attributes.flatMap eapView = response.attributes.flatMap eapView ∧ reply.code = response.code := by
  simp only [addMessageAuthenticator, Results.bind_eq_ok, Results.pure_eq, Except.ok.injEq] at signed
  obtain ⟨reserved, reserves, _, _, rfl⟩ := signed
  have same : reserved.attributes.flatMap eapView = response.attributes.flatMap eapView ∧
      reserved.code = response.code := by
    unfold reserveMessageAuthenticator at reserves
    split at reserves
    · cases reserves
      exact ⟨rfl, rfl⟩
    · cases reserves
      exact ⟨by simp [Packet.addAttribute, eapView, AttributeType.asU8], rfl⟩
  refine ⟨Eq.trans ?_ same.1, same.2⟩
  exact Proxy.setFirst_flatMap (fun _ => rfl) _

theorem finishAccess_eap (finished : finishAccess digests request response secret = .ok reply) :
    eapOctets reply = eapOctets response ∧ reply.code = response.code := by
  simp only [finishAccess, finish, Results.bind_eq_ok, liftError_eq_ok, liftPanic_eq_ok, orAuthFailed_eq_ok,
    Results.pure_eq, Except.ok.injEq] at finished
  obtain ⟨signed, signs, _, _, rfl⟩ := finished
  have copied : (copyProxyState request response).attributes.flatMap eapView = response.attributes.flatMap eapView := by
    have states : (proxyStates request).flatMap eapView = [] := by
      refine List.flatMap_eq_nil_iff.mpr fun attr member => if_neg ?_
      rw [(proxyStates_type member).2]
      decide
    simp [copyProxyState, states]
  have same : signed.attributes.flatMap eapView = (copyProxyState request response).attributes.flatMap eapView ∧
      signed.code = (copyProxyState request response).code := by
    unfold addMessageAuthenticatorIfEap at signs
    split at signs
    · exact addMessageAuthenticator_eap signs
    · cases signs
      exact ⟨rfl, rfl⟩
  rw [eapOctets_eq, eapOctets_eq]
  exact ⟨same.1.trans copied, same.2.trans (by simp [copyProxyState])⟩

theorem eapMessage_eq (small : eap.toBytes.length ≤ maxValueLength) :
    eapMessage eap = [⟨AttributeType.eapMessage.asU8, eap.toBytes⟩] := by
  have built : new AttributeType.eapMessage.asU8 eap.toBytes =
      .ok ⟨AttributeType.eapMessage.asU8, eap.toBytes⟩ := new_eq_ok.mpr ⟨small, rfl⟩
  rw [eapMessage, built]
  rfl

theorem failure_small (identifier : UInt8) :
    (EapPacket.failure identifier).toBytes.length ≤ maxValueLength := by
  simp [EapPacket.toBytes, EapPacket.failure, maxValueLength]

theorem rejection_small (eap : EapPacket) : (rejection eap).toBytes.length ≤ maxValueLength := by
  unfold rejection
  split
  · simp [EapPacket.toBytes, nak, maxValueLength]
  · exact failure_small _

theorem carries_of_head {rest : List Attribute} (small : eap.toBytes.length ≤ maxValueLength)
    (formed : eap.WellFormed) (attributes : response.attributes = eapMessage eap ++ rest)
    (finished : finishAccess digests request response secret = .ok reply) :
    eapFromRadiusPacket reply = .ok (some eap) := by
  rw [eapFromRadiusPacket_eq_some, (finishAccess_eap finished).1, eapOctets_eq, attributes, eapMessage_eq small]
  simp only [maxValueLength] at small
  exact EapPacket.fromBytes_toBytes formed (by omega) (rest.flatMap eapView)

end Carried

section First

variable {request : Packet} {eap : EapPacket} {first : Octets}

/-- In a first attribute of at least two octets, code and identifier are those of
the whole packet. -/
theorem first_octets (parsed : EapPacket.fromBytes (eapOctets request) = .ok eap)
    (found : firstEapMessage request = some first) (long : 2 ≤ first.length) :
    first[0]? = some eap.code.asU8 ∧ first[1]? = some eap.identifier := by
  obtain ⟨rest, whole⟩ := firstEapMessage_eq_some found
  obtain ⟨_, code, identifier⟩ := fromBytes_eq_ok parsed
  match first, long with
  | [_], long => simp at long
  | code' :: identifier' :: more, _ =>
    rw [whole] at code identifier
    exact ⟨congrArg some code, congrArg some identifier⟩

theorem rejectEapMessage_whole (parsed : EapPacket.fromBytes (eapOctets request) = .ok eap)
    (found : firstEapMessage request = some first) (long : 2 ≤ first.length) :
    rejectEapMessage request = eapMessage (rejection eap) := by
  obtain ⟨code, identifier⟩ := first_octets parsed found long
  have isRequest : eap.code.asU8 = EapCode.request.asU8 ↔ eap.code = .request := by
    cases eap.code <;> simp [EapCode.asU8]
  simp only [rejectEapMessage, found, Option.bind_some, code, identifier, isRequest, rejection]
  split <;> rfl

theorem rejectEapMessage_short (found : firstEapMessage request = some first) (short : first.length < 2) :
    rejectEapMessage request = [] := by
  have missing : first[1]? = none := List.getElem?_eq_none (by omega)
  simp only [rejectEapMessage, found, Option.bind_some, missing]
  cases first[0]? <;> rfl

def methodName (request : Packet) (eap : EapPacket) : Option String :=
  match eap.code with
  | .request | .response => some (eapTypeName ((eapOctets request).getD 4 0))
  | .success | .failure => none

theorem eapType_eq (found : firstEapMessage request = some first) :
    eapType request =
      if 5 ≤ first.length ∧ (first.getD 0 0 = 1 ∨ first.getD 0 0 = 2) then
        some (eapTypeName (first.getD 4 0))
      else
        none := by
  obtain ⟨attr, isFirst, rfl⟩ := Option.map_eq_some_iff.mp found
  rw [eapType, isFirst]
  rfl

theorem eapType_iff (parsed : EapPacket.fromBytes (eapOctets request) = .ok eap)
    (found : firstEapMessage request = some first) (long : 2 ≤ first.length) :
    eapType request = methodName request eap ↔
      (eap.code = .request ∨ eap.code = .response → 5 ≤ first.length) := by
  have code : first.getD 0 0 = eap.code.asU8 := by
    rw [List.getD_eq_getElem?_getD, (first_octets parsed found long).1, Option.getD_some]
  have method (enough : 5 ≤ first.length) : first.getD 4 0 = (eapOctets request).getD 4 0 := by
    obtain ⟨rest, whole⟩ := firstEapMessage_eq_some found
    rw [whole, List.getD_eq_getElem?_getD, List.getD_eq_getElem?_getD, List.getElem?_append_left (by omega)]
  rw [eapType_eq found, code, methodName]
  by_cases enough : 5 ≤ first.length
  · rw [method enough]
    cases eap.code <;> simp [EapCode.asU8, enough]
  · cases eap.code <;> simp [EapCode.asU8, enough]

theorem get_eapType (texts : Texts) (request : Packet) (username : String) :
    (requestContext texts request username).get "EAP-Type" = eapType request := by
  have other {name : String} (differs : eqIgnoreAsciiCase name "EAP-Type" = false) (value : Option String) :
      (entry name value).find? (fun entry => eqIgnoreAsciiCase entry.1 "EAP-Type") = none := by
    cases value <;> simp [entry, differs]
  have texts : (textEntries texts request).find? (fun entry => eqIgnoreAsciiCase entry.1 "EAP-Type") =
      none := by
    rw [List.find?_eq_none]
    intro entry member
    obtain ⟨⟨name, attrType⟩, listed, built⟩ := List.mem_filterMap.mp member
    obtain ⟨attr, _, rfl⟩ := Option.map_eq_some_iff.mp built
    have names : name ∈ ["NAS-Identifier", "Called-Station-Id", "Calling-Station-Id", "Filter-Id"] := by
      grind
    have differs : ∀ name ∈ ["NAS-Identifier", "Called-Station-Id", "Calling-Station-Id", "Filter-Id"],
        eqIgnoreAsciiCase name "EAP-Type" = false := by decide
    simp [differs name names]
  have user : eqIgnoreAsciiCase "User-Name" "EAP-Type" = false := by decide
  have own : eqIgnoreAsciiCase "EAP-Type" "EAP-Type" = true := by decide
  simp only [RequestContext.get, requestContext, List.cons_append, List.find?_append, List.find?_cons,
    user, texts, other (show eqIgnoreAsciiCase "NAS-IP-Address" "EAP-Type" = false by decide),
    other (show eqIgnoreAsciiCase "NAS-IPv6-Address" "EAP-Type" = false by decide),
    other (show eqIgnoreAsciiCase "NAS-Port-Type" "EAP-Type" = false by decide),
    other (show eqIgnoreAsciiCase "Service-Type" "EAP-Type" = false by decide),
    other (show eqIgnoreAsciiCase "Framed-Protocol" "EAP-Type" = false by decide), Option.none_or]
  cases eapType request with
  | none => rfl
  | some name => simp [entry, own]

end First

/-- Every handler, router and policy. -/
def Anything : Program.Semantics Effect Unit :=
  fun _ _ _ _ _ => True

section Rejects

variable {server : ServerConfig} {request reply : Packet} {username : String} {secret : Octets} {eap : EapPacket}

theorem answerAccept_rejects {msk : Option Octets}
    (run : Runs Anything (answerAccept server request username secret attributes msk) () (.ok reply) ())
    (rejected : reply.code = .accessReject) :
    ∃ decision, finishAccess server.digests request (policyReject request decision) secret = .ok reply := by
  obtain ⟨acceptAttributes, _, keys, _, policy, _, _, _, finished⟩ := answerAccept_runs.mp run
  obtain ⟨decision, _, _, same⟩ := enforce_rejects rfl ((finishAccess_eap finished).2.symm.trans rejected)
  exact ⟨decision, same ▸ finished⟩

/-- An EAP packet is treated as one, however it is split. -/
structure TreatsWhole (server : ServerConfig) (request : Packet) (eap : EapPacket) : Prop where
  rejected : ∀ username secret reply, Runs Anything (answer server request username secret .reject) () (.ok reply) () →
    eapFromRadiusPacket reply = .ok (some (rejection eap))
  rejectedByPolicy : ∀ username secret attributes msk reply,
    Runs Anything (answer server request username secret (.accept attributes msk)) () (.ok reply) () →
      reply.code = .accessReject → eapFromRadiusPacket reply = .ok (some (.failure eap.identifier))
  evaluated : ∀ username,
    (requestContext server.texts request username).get "EAP-Type" = methodName request eap

theorem rejects_without_eap (username : String) (secret : Octets) {first : Octets} (encodable : request.Encodable)
    (found : firstEapMessage request = some first) (short : first.length < 2) :
    ∃ reply, Runs Anything (answer server request username secret .reject) () (.ok reply) () ∧
      eapFromRadiusPacket reply = .ok none := by
  let response : Packet :=
    { code := .accessReject, identifier := request.identifier, authenticator := .zero 16
      attributes := rejectEapMessage request ++ [] }
  have copied : (copyProxyState request response).attributes = proxyStates request := by
    simp [copyProxyState, response, rejectEapMessage_short found short]
  have unsigned : addMessageAuthenticatorIfEap server.digests (copyProxyState request response) request.authenticator
      secret = .ok (copyProxyState request response) := by
    refine if_neg ?_
    rw [copied, Bool.not_eq_true, Proxy.hasAttribute, List.any_eq_false]
    intro attr member
    rw [(proxyStates_type member).2]
    decide
  have fits : ∀ attr ∈ (copyProxyState request response).attributes, attr.Fits := by
    rw [copied]
    exact fun attr member => encodable.fits attr (proxyStates_type member).1
  have finished : finishAccess server.digests request response secret = .ok { copyProxyState request response with
      authenticator := responseDigest server.digests (copyProxyState request response) request.authenticator secret } := by
    simp only [finishAccess, finish, unsigned, orAuthFailed, liftError_ok, Results.ok_bind,
      calculateResponseAuthenticator_of_fits _ _ fits]
    rfl
  refine ⟨_, answerReject_runs.mpr ⟨[], trivial, finished⟩, ?_⟩
  have nothing : eapOctets response = [] := by
    simp [eapOctets_eq, response, rejectEapMessage_short found short]
  rw [eapFromRadiusPacket, (finishAccess_eap finished).1, nothing]
  rfl

end Rejects

theorem treatsWhole_iff (server : ServerConfig) {data : Octets} {request : Packet} {eap : EapPacket}
    (decoded : Packet.decode data = .ok request) (carried : eapFromRadiusPacket request = .ok (some eap)) :
    TreatsWhole server request eap ↔ ∃ first, firstEapMessage request = some first ∧ 2 ≤ first.length ∧
      (eap.code = .request ∨ eap.code = .response → 5 ≤ first.length) := by
  have parsed := eapFromRadiusPacket_eq_some.mp carried
  have encodable := (Packet.decode_eq_ok.mp decoded).1
  cases found : firstEapMessage request with
  | none =>
    have short := (fromBytes_eq_ok parsed).1
    rw [firstEapMessage_eq_none found] at short
    simp at short
  | some first =>
    simp only [Option.some.injEq, exists_eq_left']
    refine ⟨fun whole => ?_, fun ⟨long, enough⟩ => ?_⟩
    · have long : 2 ≤ first.length := by
        by_contra short
        obtain ⟨reply, run, missing⟩ := @rejects_without_eap server request "" [] first encodable found (by omega)
        rw [whole.rejected _ _ _ run] at missing
        cases missing
      refine ⟨long, (eapType_iff parsed found long).mp ?_⟩
      rw [← get_eapType server.texts request "", whole.evaluated]
    · refine ⟨?_, ?_, ?_⟩
      · intro username secret reply run
        obtain ⟨rejectAttributes, _, finished⟩ := answerReject_runs.mp run
        exact carries_of_head (rejection_small eap) (rejection_formed eap)
          (congrArg (· ++ rejectAttributes) (rejectEapMessage_whole parsed found long)) finished
      · intro username secret attributes msk reply run rejected
        obtain ⟨decision, finished⟩ := answerAccept_rejects run rejected
        have attributes : (policyReject request decision).attributes =
            eapMessage (.failure eap.identifier) ++ replyMessage decision.replyMessage := by
          rw [policyReject_attributes]
          simp only [policyEapFailure, found, Option.bind_some, (first_octets parsed found long).2]
        exact carries_of_head (failure_small _) (failure_formed _) attributes finished
      · intro username
        rw [get_eapType]
        exact (eapType_iff parsed found long).mpr enough

/-- An Access-Request with an EAP packet in the given pieces. -/
def eapRequest (pieces : List Octets) : Packet where
  code := .accessRequest
  identifier := 7
  authenticator := .fill 16 9
  attributes := ⟨AttributeType.userName.asU8, [98, 111, 98]⟩ :: ⟨AttributeType.nasIpAddress.asU8, [192, 0, 2, 1]⟩ ::
    pieces.map fun piece => ⟨AttributeType.eapMessage.asU8, piece⟩

def identityResponse : EapPacket where
  code := .response
  identifier := 1
  eapType := some .identity
  data := [98, 111, 98]

theorem wholeIdentity_treated :
    TreatsWhole sampleServer (eapRequest [[2, 1, 0, 8, 1], [98, 111, 98]]) identityResponse := by
  have encodable : (eapRequest [[2, 1, 0, 8, 1], [98, 111, 98]]).Encodable := by decide +kernel
  have carried : eapFromRadiusPacket (eapRequest [[2, 1, 0, 8, 1], [98, 111, 98]]) = .ok (some identityResponse) := by
    decide +kernel
  exact (treatsWhole_iff sampleServer (Packet.decode_eq_ok.mpr ⟨encodable, List.prefix_rfl⟩) carried).mpr
    ⟨[2, 1, 0, 8, 1], rfl, by decide, fun _ => by decide⟩

/-- With one octet in the first attribute, the reject carries no EAP packet and
policies see no EAP-Type. -/
theorem splitIdentity_overlooked :
    eapFromRadiusPacket (eapRequest [[2], [1, 0, 8, 1, 98, 111, 98]]) = .ok (some identityResponse) ∧
    (∃ reply, Runs Anything (answer sampleServer (eapRequest [[2], [1, 0, 8, 1, 98, 111, 98]]) "bob" [1, 2] .reject) ()
        (.ok reply) () ∧ eapFromRadiusPacket reply = .ok none) ∧
    (requestContext plainTexts (eapRequest [[2], [1, 0, 8, 1, 98, 111, 98]]) "bob").get "EAP-Type" =
      none := by
  have encodable : (eapRequest [[2], [1, 0, 8, 1, 98, 111, 98]]).Encodable := by decide +kernel
  have found : firstEapMessage (eapRequest [[2], [1, 0, 8, 1, 98, 111, 98]]) = some [2] := rfl
  exact ⟨by decide +kernel, rejects_without_eap "bob" [1, 2] encodable found (by decide), by decide +kernel⟩

end UsgRadius.Server
