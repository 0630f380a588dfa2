import UsgRadius.Proxy.Progress

namespace UsgRadius.Proxy

open Data Program Auth Packet Digests
open AttributeType (tunnelPassword messageAuthenticator eapMessage vendorSpecific)

/-! What becomes of a response that consumed its entry: whether the NAS is sent
the rewritten packet, and whether that packet answers its request. -/

/-! ## The size of a rewritten response -/

def signatureLength : Nat := 18

def signedLength (attr : Attribute) : Nat :=
  if attr.attrType = messageAuthenticator.asU8 then signatureLength else attr.encodedLength

def addedSignature (attributes : List Attribute) : Nat :=
  if hasAttribute eapMessage.asU8 attributes &&
      !hasAttribute messageAuthenticator.asU8 attributes then
    signatureLength
  else
    0

def keptLength (attr : Attribute) : Nat :=
  ((stripMppeAttribute attr).map signedLength).getD 0

def tunnelLength (tunnel : TunnelPassword) : Nat :=
  5 + (tunnel.password.length + 16) / 16 * 16

def keysLength (keys : MppeKeys) : Nat :=
  (10 + (keys.sendKey.length + 16) / 16 * 16) + (10 + (keys.recvKey.length + 16) / 16 * 16)

/-- The length of the response as rewritten for the NAS, computed from what the
home server sent: without the Proxy-State of this proxy and without MS-MPPE keys,
with the passwords and keys that decrypt padded anew, and signed. -/
def relayedSize (digests : Digests) (response : Packet) (entry : ProxyCacheEntry) : Nat :=
  minPacketSize +
    (((withoutProxyState response entry).attributes.filter
      (·.attrType ≠ tunnelPassword.asU8)).map keptLength).sum +
    ((tunnelPasswords digests response.attributes entry.homeServer.secret
      entry.originalRequest.authenticator).map tunnelLength).sum +
    ((receivedKeys digests response entry).map keysLength).getD 0 +
    addedSignature response.attributes

section Signing

variable {digests : Digests} {packet result : Packet} {requestAuthenticator : Block 16} {secret : Octets}

theorem zero_lengths (attributes : List Attribute) :
    (zeroMessageAuthenticators attributes).map Attribute.encodedLength = attributes.map signedLength := by
  rw [zeroMessageAuthenticators, List.map_map]
  refine List.map_congr_left fun attr _ => ?_
  simp only [Function.comp, signedLength]
  split
  · rfl
  · rfl

theorem setFirst_lengths (mac : Block 16) (attributes : List Attribute) :
    (setFirst messageAuthenticator.asU8 mac.octets (zeroMessageAuthenticators attributes)).map
      Attribute.encodedLength = attributes.map signedLength := by
  induction attributes with
  | nil => rfl
  | cons attr rest ih =>
    have tail := zero_lengths rest
    unfold zeroMessageAuthenticators at ih tail ⊢
    rw [List.map_cons, setFirst]
    by_cases isMa : attr.attrType = messageAuthenticator.asU8
    · simp only [isMa, if_true, List.map_cons, tail, signedLength, Attribute.encodedLength, Block.size]
      rfl
    · simp only [isMa, if_false, List.map_cons, ih, signedLength]

theorem sign_length (signed : signMessageAuthenticator digests packet requestAuthenticator secret = .ok result) :
    result.length = minPacketSize + (packet.attributes.map signedLength).sum := by
  simp only [signMessageAuthenticator, Results.bind_eq_ok] at signed
  obtain ⟨packetBytes, _, assembled⟩ := signed
  cases assembled
  rw [length, setFirst_lengths]

theorem sign_encodable_iff (fits : ∀ attr ∈ packet.attributes, attr.Fits) :
    (∃ result, signMessageAuthenticator digests packet requestAuthenticator secret = .ok result ∧
      result.Encodable) ↔
      minPacketSize + (packet.attributes.map signedLength).sum ≤ maxPacketSize := by
  refine ⟨?_, ?_⟩
  · intro ⟨result, signed, encodable⟩
    rw [← sign_length signed]
    exact encodable.small
  · intro small
    have zeroed : ({ packet with
        attributes := zeroMessageAuthenticators packet.attributes, authenticator := requestAuthenticator } :
          Packet).Encodable := by
      refine ⟨zero_fits fits, ?_⟩
      rw [length, zero_lengths]
      exact small
    have encoded := encode_eq_ok.mpr ⟨zeroed, rfl⟩
    have signed : ∃ result, signMessageAuthenticator digests packet requestAuthenticator secret = .ok result := by
      simp only [signMessageAuthenticator, encoded, liftPacket, Results.ok_bind]
      exact ⟨_, rfl⟩
    obtain ⟨result, signed⟩ := signed
    refine ⟨result, signed, (sign_refreshed signed).fits fits, ?_⟩
    rw [sign_length signed]
    exact small

theorem recompute_encodable_iff (fits : ∀ attr ∈ packet.attributes, attr.Fits) :
    (∃ result, recomputeMessageAuthenticator digests packet requestAuthenticator secret = .ok result ∧
      result.Encodable) ↔
      minPacketSize + (packet.attributes.map signedLength).sum + addedSignature packet.attributes ≤
        maxPacketSize := by
  cases hasMa : hasAttribute messageAuthenticator.asU8 packet.attributes with
  | true =>
    simp only [recomputeMessageAuthenticator, hasMa, addedSignature, Bool.not_true, Bool.and_false, Bool.false_and,
      Bool.false_eq_true, if_false, Nat.add_zero]
    exact sign_encodable_iff fits
  | false =>
    cases hasEap : hasAttribute eapMessage.asU8 packet.attributes with
    | true =>
      have accepted : liftPacket (Attribute.new messageAuthenticator.asU8 (List.replicate 16 0)) =
          .ok ⟨messageAuthenticator.asU8, List.replicate 16 0⟩ := rfl
      have added : ∀ attr ∈ (packet.addAttribute
          ⟨messageAuthenticator.asU8, List.replicate 16 0⟩).attributes, attr.Fits := by
        exact List.forall_mem_append.mpr ⟨fits, List.forall_mem_singleton.mpr (by decide)⟩
      simp only [recomputeMessageAuthenticator, hasMa, hasEap, addedSignature, Bool.not_true, Bool.not_false,
        Bool.and_false, Bool.and_true, Bool.false_eq_true, if_false, if_true, accepted, Results.ok_bind]
      rw [sign_encodable_iff added, addAttribute, List.map_append, List.sum_append, ← Nat.add_assoc]
      rfl
    | false =>
      have plain : packet.attributes.map signedLength = packet.attributes.map Attribute.encodedLength := by
        refine List.map_congr_left fun attr member => ?_
        exact if_neg (unsigned_iff.mpr hasMa attr member)
      rw [recompute_untouched hasMa hasEap, plain]
      simp only [addedSignature, hasMa, hasEap, Bool.false_and, Bool.false_eq_true, if_false, Nat.add_zero]
      refine ⟨?_, fun small => ⟨_, rfl, fits, small⟩⟩
      rintro ⟨_, same, encodable⟩
      cases same
      exact encodable.small

end Signing

variable {attributes : List Attribute} {draw : SaltDraw}

section Rewriting

variable {digests : Digests} {entry : ProxyCacheEntry} {response : Packet} {salts : List (Block 2)}

theorem tunnels_length {tunnels : List TunnelPassword} (enough : tunnels.length ≤ salts.length) :
    ((List.zipWith (relayedTunnel digests entry) tunnels salts).map signedLength).sum =
      (tunnels.map tunnelLength).sum := by
  induction tunnels generalizing salts with
  | nil => simp
  | cons tunnel rest ih =>
    cases salts with
    | nil => simp at enough
    | cons salt salts =>
      have own : signedLength (relayedTunnel digests entry tunnel salt) = tunnelLength tunnel := by
        simp only [signedLength, relayedTunnel, Attribute.encodedLength, TunnelPassword.sealedValue_length,
          tunnelLength, Attribute.minLength]
        rw [if_neg (by decide)]
        omega
      rw [List.zipWith_cons_cons, List.map_cons, List.sum_cons, List.map_cons, List.sum_cons, own,
        ih (by simpa using enough)]

theorem stripped_length (fits : ∀ attr ∈ attributes, attr.Fits) :
    (((attributes.filterMap stripMppeAttribute).filter (·.attrType ≠ tunnelPassword.asU8)).map
      signedLength).sum =
      ((attributes.filter (·.attrType ≠ tunnelPassword.asU8)).map keptLength).sum := by
  induction attributes with
  | nil => rfl
  | cons attr rest ih =>
    obtain ⟨own, others⟩ := List.forall_mem_cons.mp fits
    have tail := ih others
    cases kept : stripMppeAttribute attr with
    | none =>
      have nothing : keptLength attr = 0 := by simp [keptLength, kept]
      rw [List.filterMap_cons_none kept, tail, List.filter_cons]
      split
      · rw [List.map_cons, List.sum_cons, nothing, Nat.zero_add]
      · rfl
    | some stripped =>
      have left : keptLength attr = signedLength stripped := by simp [keptLength, kept]
      rw [List.filterMap_cons_some kept, List.filter_cons, List.filter_cons, (strip_kept own kept).1]
      split
      · rw [List.map_cons, List.sum_cons, tail, List.map_cons, List.sum_cons, left]
      · exact tail

theorem keyAttributes_length (digests : Digests) (entry : ProxyCacheEntry) (base : UInt16) (keys : MppeKeys) :
    (((keyAttributes digests entry base keys).filter (·.attrType ≠ tunnelPassword.asU8)).map
      signedLength).sum = keysLength keys := by
  have vendor (vendorType : UInt8) (key : Octets) (salt : Block 2) :
      signedLength (Mppe.keyAttribute digests vendorType key entry.clientSecret entry.originalRequest.authenticator
        salt) = 10 + (key.length + 16) / 16 * 16 := by
    have other : vendorSpecific.asU8 ≠ messageAuthenticator.asU8 := by decide
    exact (if_neg other).trans Mppe.keyAttribute_length
  have both : (keyAttributes digests entry base keys).filter (·.attrType ≠ tunnelPassword.asU8) =
      keyAttributes digests entry base keys := rfl
  rw [both]
  simp [keyAttributes, vendor, keysLength]

theorem rekeyed_length {rekeyed : Packet} (encodable : response.Encodable)
    (passed : Rekeyed digests entry draw.mppe response rekeyed salts)
    (plain : rekeyed.attributes.filter (·.attrType ≠ tunnelPassword.asU8) =
      (rekeyMppeAttributes digests (withoutProxyState response entry) entry draw.mppe).attributes.filter
        (·.attrType ≠ tunnelPassword.asU8)) :
    minPacketSize + (rekeyed.attributes.map signedLength).sum + addedSignature rekeyed.attributes =
      relayedSize digests response entry := by
  have fits : ∀ attr ∈ (withoutProxyState response entry).attributes, attr.Fits :=
    fun attr member => encodable.fits attr (List.mem_of_mem_filter member)
  have others : (rekeyed.attributes.filter (·.attrType ≠ tunnelPassword.asU8)) =
      rekeyed.attributes.filter (fun attr => !decide (attr.attrType = tunnelPassword.asU8)) := by
    simp
  have present (attrType : UInt8) (notVendor : attrType ≠ vendorSpecific.asU8)
      (notTunnel : attrType ≠ tunnelPassword.asU8) (notState : attrType ≠ AttributeType.proxyState.asU8) :
      hasAttribute attrType rekeyed.attributes = hasAttribute attrType response.attributes := by
    rw [Bool.eq_iff_iff, hasAttribute_iff_filter, hasAttribute_iff_filter, passed.plain _ notVendor notTunnel,
      withoutProxyState_filter _ notState]
  have added : addedSignature rekeyed.attributes = addedSignature response.attributes := by
    simp only [addedSignature]
    rw [present _ (by decide) (by decide) (by decide), present _ (by decide) (by decide) (by decide)]
  have keys : (((((receivedKeys digests response entry).map (keyAttributes digests entry draw.mppe)).getD []).filter
      (·.attrType ≠ tunnelPassword.asU8)).map signedLength).sum =
        ((receivedKeys digests response entry).map keysLength).getD 0 := by
    cases receivedKeys digests response entry with
    | none => rfl
    | some keys => exact keyAttributes_length digests entry draw.mppe keys
  rw [Views.sum_map_halves (·.attrType = tunnelPassword.asU8) signedLength rekeyed.attributes, ← others,
    plain, passed.tunnels, tunnels_length passed.enough, rekeyMppe_eq fits, List.filter_append, List.map_append,
    List.sum_append, stripped_length fits, withoutProxyState_receivedKeys, keys, added, relayedSize, sentPasswords]
  omega

/-- A response that verifies is rewritten and encoded exactly if it is small
enough once rewritten. -/
theorem rewrite_encodable_iff (draw : SaltDraw) (encodable : response.Encodable)
    (verified : verifyResponseAuthenticator digests response entry.originalRequest.authenticator
      entry.homeServer.secret = .ok true) :
    (∃ relayed, rewriteResponseForNas digests response entry draw = .ok relayed ∧ relayed.Encodable) ↔
      relayedSize digests response entry ≤ maxPacketSize := by
  obtain ⟨rekeyed, salts, run, passed, plain⟩ := @passes_ok digests entry response draw encodable
  rw [rewriteResponse_eq verified run passed.fits, ← rekeyed_length encodable passed plain,
    ← @recompute_encodable_iff digests rekeyed entry.originalRequest.authenticator entry.clientSecret passed.fits]
  cases recomputeMessageAuthenticator digests rekeyed entry.originalRequest.authenticator entry.clientSecret with
  | error reason => simp [liftError, Except.map]
  | ok result =>
    refine ⟨?_, ?_⟩
    · rintro ⟨relayed, assembled, fits, small⟩
      cases assembled
      exact ⟨result, rfl, fits, small⟩
    · rintro ⟨_, same, fits, small⟩
      cases same
      exact ⟨_, rfl, fits, small⟩

end Rewriting

section Relaying

variable {digests : Digests} {nasFails : Prop} {before after : World} {response : Packet} {origin : ResponseOrigin}
  {proxyState : ProxyStateKey} {entry : ProxyCacheEntry} {result : Except Fault Unit}

/-- A response as sent on to the NAS. -/
structure Sent (digests : Digests) (response : Packet) (proxyState : ProxyStateKey) (entry : ProxyCacheEntry)
    (before after : World) (relayed : Packet) : Prop where
  rewritten : ∃ draw, rewriteResponseForNas digests response entry draw = .ok relayed
  encodable : relayed.Encodable
  reply : after.replies = ⟨proxyState, entry.originalSource, relayed.bytes⟩ :: before.replies

/-- An attributed response consumes its entry; the NAS is sent a packet only if
the rewriting gives one that can be encoded. -/
theorem Attributed.outcome (attributed : Attributed digests before.cache response origin proxyState entry)
    (run : Runs (Performs nasFails) (handleResponseFrom digests response origin) before result after) :
    after.cache = before.cache.erase proxyState ∧
      ((∃ relayed, Sent digests response proxyState entry before after relayed) ∨
        (after.replies = before.replies ∧ (nasFails ∨ ∃ draw, ¬ ∃ relayed,
          rewriteResponseForNas digests response entry draw = .ok relayed ∧ relayed.Encodable))) := by
  rw [attributed.runs_iff] at run
  simp only [relayResponse, ask_bind, runs_perform, runs_check_bind, Performs] at run
  obtain ⟨⟨⟩, _, ⟨now, rfl⟩, draw, _, rfl, run⟩ := run
  rcases run with ⟨reason, failed, rfl, rfl⟩ | ⟨relayed, rewritten, run⟩
  · refine ⟨rfl, .inr ⟨rfl, .inr ⟨draw, ?_⟩⟩⟩
    rintro ⟨_, rewritten, _⟩
    cases failed.symm.trans rewritten
  rcases run with ⟨reason, failed, rfl, rfl⟩ | ⟨bytes, encoded, sent, middle, performed, run⟩
  · refine ⟨rfl, .inr ⟨rfl, .inr ⟨draw, ?_⟩⟩⟩
    rintro ⟨_, again, encodable⟩
    cases rewritten.symm.trans again
    rw [encode_eq_ok.mpr ⟨encodable, rfl⟩] at failed
    cases failed
  obtain ⟨encodable, rfl⟩ := encode_eq_ok.mp (liftPacket_eq_ok.mp (liftError_eq_ok.mp encoded))
  cases sent with
  | true =>
    obtain ⟨rfl, rfl⟩ := runs_done.mp run
    cases performed
    exact ⟨rfl, .inl ⟨relayed, ⟨draw, rewritten⟩, encodable, rfl⟩⟩
  | false =>
    obtain ⟨rfl, rfl⟩ := runs_done.mp run
    obtain ⟨fails, rfl⟩ := performed
    exact ⟨rfl, .inr ⟨rfl, .inl fails⟩⟩

end Relaying

/-- With sends succeeding, the NAS is sent the relayed reply exactly if that
reply is small enough; the entry is consumed in any case. -/
theorem response_sent_iff {digests : Digests} {before after : World} {data : Octets} {response : Packet}
    {origin : ResponseOrigin} {proxyState : ProxyStateKey} {entry : ProxyCacheEntry} {result : Except Fault Unit}
    (decoded : decode data = .ok response)
    (attributed : Attributed digests before.cache response origin proxyState entry)
    (run : Runs (Performs False) (handleResponseFrom digests response origin) before result after) :
    after.cache = before.cache.erase proxyState ∧
      ((∃ relayed, Sent digests response proxyState entry before after relayed) ↔
        relayedSize digests response entry ≤ maxPacketSize) := by
  have encodable := (decode_eq_ok.mp decoded).1
  have sized (draw : SaltDraw) := rewrite_encodable_iff draw encodable attributed.verified
  obtain ⟨consumed, outcome⟩ := attributed.outcome run
  refine ⟨consumed, ?_, ?_⟩
  · intro ⟨relayed, ⟨draw, rewritten⟩, fits, _⟩
    exact (sized draw).mp ⟨relayed, rewritten, fits⟩
  · intro small
    rcases outcome with sent | ⟨_, impossible | ⟨draw, unsent⟩⟩
    · exact sent
    · cases impossible
    · exact absurd ((sized draw).mpr small) unsent

/-- A response of the home server to the request of `plainEntry`, signed for it. -/
def homeResponse (code : Code) (identifier : UInt8) (attributes : List Attribute) : Packet :=
  let unsigned : Packet :=
    { code, identifier, authenticator := Block.zero 16
      attributes := attributes ++ [⟨AttributeType.proxyState.asU8, (proxyStateKey 0 0).octets⟩] }
  { unsigned with authenticator := responseDigest checksum unsigned (Block.fill 16 9) [4, 5] }

theorem homeResponse_attributed {code : Code} {identifier : UInt8}
    (encodable : (homeResponse code identifier attributes).Encodable) :
    Attributed checksum (forwardedWorld sampleEntry.originalRequest).cache
      (homeResponse code identifier attributes) (.udp sampleEntry.homeServer.address) (proxyStateKey 0 0) plainEntry where
  correlated := by
    have own : Block.ofOctets? 16 (proxyStateKey 0 0).octets = some (proxyStateKey 0 0) := by decide +kernel
    simp [lastProxyState, homeResponse, own]
  stored := by decide +kernel
  expected := by decide +kernel
  verified := by
    have signed : (homeResponse code identifier attributes).authenticator = responseDigest checksum
        (homeResponse code identifier attributes) (Block.fill 16 9) [4, 5] := by
      simp only [homeResponse, responseDigest, length]
    rw [verifyResponseAuthenticator_of_fits _ _ encodable.fits]
    exact congrArg Except.ok (decide_eq_true signed)

theorem plainEntry_sent :
    ∃ result after, Runs (Performs False) (handleResponseFrom checksum (homeResponse .accessAccept 7 [])
        (.udp sampleEntry.homeServer.address)) (forwardedWorld sampleEntry.originalRequest) result after ∧
      ∃ relayed, Sent checksum (homeResponse .accessAccept 7 []) (proxyStateKey 0 0) plainEntry
        (forwardedWorld sampleEntry.originalRequest) after relayed := by
  have encodable : (homeResponse .accessAccept 7 []).Encodable := by decide +kernel
  obtain ⟨result, after, run⟩ := exists_run False (handleResponseFrom checksum (homeResponse .accessAccept 7 [])
    (.udp sampleEntry.homeServer.address)) (forwardedWorld sampleEntry.originalRequest)
  have decoded := decode_eq_ok.mpr ⟨encodable, List.prefix_rfl⟩
  exact ⟨result, after, run,
    (response_sent_iff decoded (homeResponse_attributed encodable) run).2.mpr (by decide +kernel)⟩

/-- The attributes of a response that fills a packet: an EAP-Message without
Message-Authenticator and both keys in one Vendor-Specific. -/
def fullAttributes : List Attribute :=
  [⟨eapMessage.asU8, [3, 1, 0, 4]⟩,
    ⟨vendorSpecific.asU8, VendorSpecific.combinedValue Mppe.microsoftVendorId
      [Mppe.keySub checksum Mppe.msMppeSendKey [1, 2, 3] [4, 5] (Block.fill 16 9) (Block.fill 2 201),
        Mppe.keySub checksum Mppe.msMppeRecvKey [4, 5, 6] [4, 5] (Block.fill 16 9) (Block.fill 2 202)]⟩] ++
    List.replicate 15 ⟨AttributeType.replyMessage.asU8, List.replicate 253 97⟩ ++
    [⟨AttributeType.replyMessage.asU8, List.replicate 179 97⟩]

/-- A response of 4096 octets is 4102 octets long when rewritten: its entry is
consumed and the NAS is sent nothing. -/
theorem fullResponse_lost :
    ∃ result after, decode (homeResponse .accessAccept 7 fullAttributes).bytes =
        .ok (homeResponse .accessAccept 7 fullAttributes) ∧
      Runs (Performs False) (handleResponseFrom checksum (homeResponse .accessAccept 7 fullAttributes)
        (.udp sampleEntry.homeServer.address)) (forwardedWorld sampleEntry.originalRequest) result after ∧
      after.cache.lookup (proxyStateKey 0 0) = none ∧ after.replies = [] := by
  have encodable : (homeResponse .accessAccept 7 fullAttributes).Encodable := by decide +kernel
  have attributed := homeResponse_attributed encodable
  obtain ⟨result, after, run⟩ := exists_run False (handleResponseFrom checksum
    (homeResponse .accessAccept 7 fullAttributes) (.udp sampleEntry.homeServer.address))
    (forwardedWorld sampleEntry.originalRequest)
  refine ⟨result, after, decode_eq_ok.mpr ⟨encodable, List.prefix_rfl⟩, run, ?_⟩
  obtain ⟨consumed, ⟨relayed, ⟨draw, rewritten⟩, fits, _⟩ | ⟨unsent, _⟩⟩ := attributed.outcome run
  · have small := (rewrite_encodable_iff draw encodable attributed.verified).mp ⟨relayed, rewritten, fits⟩
    exact absurd small (by decide +kernel)
  · exact ⟨by rw [consumed, AList.lookup_erase], unsent⟩

/-- A reply with the Identifier of an Access-Request and a code that may answer it. -/
structure Answers (request reply : Packet) : Prop where
  identifier : reply.identifier = request.identifier
  code : reply.code ∈ [Code.accessAccept, Code.accessReject, Code.accessChallenge]

theorem rewriteResponse_header {digests : Digests} {entry : ProxyCacheEntry} {response relayed : Packet}
    (encodable : response.Encodable)
    (verified : verifyResponseAuthenticator digests response entry.originalRequest.authenticator
      entry.homeServer.secret = .ok true) (rewritten : rewriteResponseForNas digests response entry draw = .ok relayed) :
    relayed.code = response.code ∧ relayed.identifier = response.identifier := by
  obtain ⟨rekeyed, salts, run, passed, _⟩ := @passes_ok digests entry response draw encodable
  rw [rewriteResponse_eq verified run passed.fits] at rewritten
  cases recomputed : recomputeMessageAuthenticator digests rekeyed entry.originalRequest.authenticator
      entry.clientSecret with
  | error reason =>
    rw [recomputed] at rewritten
    cases rewritten
  | ok result =>
    obtain ⟨code, identifier, _⟩ := recompute_refreshed recomputed
    rw [recomputed] at rewritten
    cases rewritten
    exact ⟨code.trans passed.code, identifier.trans passed.identifier⟩

/-- What the NAS is sent for its request answers it exactly if the home server's
response has the Identifier of the request and a code that may answer it: neither
is compared with the request. -/
theorem relayed_answers_iff {digests : Digests} {request : Packet} {source : SocketAddr} {homeServer : HomeServer}
    {clientSecret data : Octets} {entry stored : ProxyCacheEntry} {count : Nat} {start forwarded before after : World}
    {key : Except Fault ProxyStateKey} {response : Packet} {origin : ResponseOrigin} {proxyState : ProxyStateKey}
    {result : Except Fault Unit}
    (forwarding : Runs (Performs True) (forwardRequest digests request source homeServer clientSecret)
      start key forwarded) (found : forwarded.cache.lookup entry.proxyState = some entry)
    (new : start.cache.lookup entry.proxyState ≠ some entry) (retried : Retried entry count stored)
    (decoded : decode data = .ok response)
    (attributed : Attributed digests before.cache response origin proxyState stored)
    (run : Runs (Performs True) (handleResponseFrom digests response origin) before result after)
    (relayedOn : after.replies ≠ before.replies) :
    ∃ reply, after.replies = ⟨proxyState, source, reply.bytes⟩ :: before.replies ∧
      decode reply.bytes = .ok reply ∧
      (Answers request reply ↔ response.identifier = request.identifier ∧
        response.code ∈ [Code.accessAccept, Code.accessReject, Code.accessChallenge]) := by
  have pending := forwarded_pending forwarding found new
  have encodable := (decode_eq_ok.mp decoded).1
  obtain ⟨_, ⟨reply, ⟨draw, rewritten⟩, fits, sent⟩ | ⟨unsent, _⟩⟩ := attributed.outcome run
  · obtain ⟨code, identifier⟩ := rewriteResponse_header encodable attributed.verified rewritten
    refine ⟨reply, ?_, decode_eq_ok.mpr ⟨fits, List.prefix_rfl⟩, ?_⟩
    · rw [sent, retried.source, pending.source]
    · rw [← code, ← identifier]
      exact ⟨fun answers => ⟨answers.identifier, answers.code⟩, fun ⟨identifier, code⟩ => ⟨identifier, code⟩⟩
  · exact absurd unsent relayedOn

/-- The proxy of `plainEntry` after a response of its home server. -/
def answeredWorld (response : Packet) : World :=
  ((handleResponseFrom checksum response (.udp sampleEntry.homeServer.address)).eval (perform calm)
    (forwardedWorld sampleEntry.originalRequest)).2

theorem answeredWorld_runs (nasFails : Prop) (response : Packet) :
    ∃ result, Runs (Performs nasFails) (handleResponseFrom checksum response
      (.udp sampleEntry.homeServer.address)) (forwardedWorld sampleEntry.originalRequest) result
      (answeredWorld response) :=
  ⟨_, eval_runs (perform_performs calm (fun impossible => by cases impossible)) _ _⟩

theorem plainEntry_answered :
    ∃ reply, (answeredWorld (homeResponse .accessAccept 7 [])).replies =
        [⟨proxyStateKey 0 0, sampleEntry.originalSource, reply.bytes⟩] ∧
      Answers sampleEntry.originalRequest reply := by
  have encodable : (homeResponse .accessAccept 7 []).Encodable := by decide +kernel
  obtain ⟨_, forwarding⟩ := forwardedWorld_runs True sampleEntry.originalRequest
  obtain ⟨_, run⟩ := answeredWorld_runs True (homeResponse .accessAccept 7 [])
  have retried : Retried plainEntry 0 plainEntry := ⟨rfl, rfl, rfl, rfl, rfl⟩
  obtain ⟨reply, sent, _, answers⟩ := relayed_answers_iff forwarding (by decide +kernel) (by decide +kernel) retried
    (decode_eq_ok.mpr ⟨encodable, List.prefix_rfl⟩) (homeResponse_attributed encodable) run (by decide +kernel)
  exact ⟨reply, sent, answers.mpr ⟨rfl, by decide⟩⟩

/-- A response under another Identifier that verifies is relayed as it is. -/
theorem otherIdentifier_relayed :
    ∃ reply, (answeredWorld (homeResponse .accessAccept 8 [])).replies =
        [⟨proxyStateKey 0 0, sampleEntry.originalSource, reply.bytes⟩] ∧
      decode reply.bytes = .ok reply ∧ ¬ Answers sampleEntry.originalRequest reply := by
  have encodable : (homeResponse .accessAccept 8 []).Encodable := by decide +kernel
  have attributed := homeResponse_attributed encodable
  obtain ⟨_, run⟩ := answeredWorld_runs False (homeResponse .accessAccept 8 [])
  obtain ⟨_, ⟨reply, ⟨draw, rewritten⟩, fits, sent⟩ | ⟨unsent, _⟩⟩ := attributed.outcome run
  · refine ⟨reply, sent, decode_eq_ok.mpr ⟨fits, List.prefix_rfl⟩, ?_⟩
    intro answers
    have identifier := (rewriteResponse_header encodable attributed.verified rewritten).2
    rw [answers.identifier] at identifier
    exact absurd identifier (by decide)
  · exact absurd unsent (by decide +kernel)

end UsgRadius.Proxy
