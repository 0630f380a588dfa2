import UsgRadius.Proxy.Rekeying

namespace UsgRadius.Proxy

open Data Auth Salted Mppe Block TunnelPassword Digests MppeKeys Packet
open AttributeType (tunnelPassword messageAuthenticator vendorSpecific proxyState eapMessage)

variable {packet : Packet} {keys : Option MppeKeys}

/-! What the NAS receives for a response of the home server. -/

def mppeKeySubs (packet : Packet) : List VendorSpecific :=
  packet.findVendorAttributes microsoftVendorId msMppeSendKey ++
    packet.findVendorAttributes microsoftVendorId msMppeRecvKey

def packetSalts (packet : Packet) : List Octets :=
  (mppeKeySubs packet).map (·.value.take 2) ++
    (packet.findAllAttributes tunnelPassword.asU8).map fun attr => (attr.value.drop 1).take 2

/-- What the NAS gets for `response`, read with its own secret and the Request
Authenticator it sent. -/
structure Relayed (digests : Digests) (entry : ProxyCacheEntry) (response relayed : Packet) : Prop where
  code : relayed.code = response.code
  identifier : relayed.identifier = response.identifier
  authentic : verifyResponseAuthenticator digests relayed entry.originalRequest.authenticator
    entry.clientSecret = .ok true
  signed : relayed.findAttribute messageAuthenticator.asU8 ≠ none →
    checkMessageAuthenticator digests relayed entry.originalRequest.authenticator entry.clientSecret = .ok .valid
  eapSigned : relayed.findAttribute eapMessage.asU8 ≠ none →
    relayed.findAttribute messageAuthenticator.asU8 ≠ none
  /-- The pair of keys the home server sent, or none where it did not decrypt. -/
  keys : fromPacket digests relayed entry.clientSecret entry.originalRequest.authenticator =
    .ok (receivedKeys digests response entry)
  keysDecrypt : ∀ sub ∈ mppeKeySubs relayed, ∃ key,
    decryptKey digests sub.value entry.clientSecret entry.originalRequest.authenticator = .ok key
  /-- Every Tunnel-Password left decrypts, to the ones the home server sent. -/
  tunnels : (relayed.findAllAttributes tunnelPassword.asU8).map (fun attr =>
      fromAttribute digests attr entry.clientSecret entry.originalRequest.authenticator) =
    (tunnelPasswords digests response.attributes entry.homeServer.secret
      entry.originalRequest.authenticator).map .ok
  saltsDistinct : (packetSalts relayed).Nodup
  saltsMarked : ∀ salt ∈ packetSalts relayed, ∃ block : Block 2, salt = block.octets ∧ saltUnmarked block = false
  proxyStateGone : ∀ attr ∈ relayed.attributes,
    ¬ (attr.attrType = proxyState.asU8 ∧ attr.value = entry.proxyState.octets)
  others : relayed.attributes.filterMap (carried entry.proxyState) =
    response.attributes.filterMap (carried entry.proxyState)

section Passes

variable {digests : Digests} {entry : ProxyCacheEntry} {response : Packet}

theorem fromPacket_congr {left right : Packet} (secret : Octets) (requestAuthenticator : Block 16)
    (send : left.findVendorAttributes microsoftVendorId msMppeSendKey =
      right.findVendorAttributes microsoftVendorId msMppeSendKey)
    (recv : left.findVendorAttributes microsoftVendorId msMppeRecvKey =
      right.findVendorAttributes microsoftVendorId msMppeRecvKey) :
    fromPacket digests left secret requestAuthenticator =
      fromPacket digests right secret requestAuthenticator := by
  simp only [fromPacket, send, recv]

theorem subsOf_other {vendorId : UInt32} {vendorType : UInt8} {attr : Attribute}
    (type : attr.attrType ≠ vendorSpecific.asU8) : subsOf vendorId vendorType attr = [] := by
  simp [subsOf, vendorSubs, type]

theorem withoutProxyState_find (vendorId : UInt32) (vendorType : UInt8) :
    (withoutProxyState response entry).findVendorAttributes vendorId vendorType =
      response.findVendorAttributes vendorId vendorType := by
  rw [findVendorAttributes_eq, findVendorAttributes_eq]
  refine Views.flatMap_filter (fun attr ours => subsOf_other ?_) response.attributes
  obtain ⟨type, _⟩ : attr.attrType = proxyState.asU8 ∧ attr.value = entry.proxyState.octets := by
    simpa using ours
  simp [type, AttributeType.asU8]

theorem withoutProxyState_receivedKeys :
    receivedKeys digests (withoutProxyState response entry) entry = receivedKeys digests response entry := by
  simp only [receivedKeys, fromPacket_congr _ _ (withoutProxyState_find _ _) (withoutProxyState_find _ _)]

theorem withoutProxyState_filter (attrType : UInt8) (different : attrType ≠ proxyState.asU8) :
    (withoutProxyState response entry).attributes.filter (·.attrType = attrType) =
      response.attributes.filter (·.attrType = attrType) := by
  simp only [withoutProxyState, List.filter_filter]
  refine List.filter_congr fun attr _ => ?_
  by_cases type : attr.attrType = attrType
  · simp [type, different]
  · simp [type]

theorem withoutProxyState_carried :
    (withoutProxyState response entry).attributes.filterMap (carried entry.proxyState) =
      response.attributes.filterMap (carried entry.proxyState) := by
  rw [List.filterMap_eq_flatMap_toList, List.filterMap_eq_flatMap_toList]
  refine Views.flatMap_filter (fun attr ours => ?_) response.attributes
  have ours : attr.attrType = proxyState.asU8 ∧ attr.value = entry.proxyState.octets := by
    simpa using ours
  simp [carried, replaced, ours]

structure Rekeyed (digests : Digests) (entry : ProxyCacheEntry) (base : UInt16) (response rekeyed : Packet)
    (salts : List (Block 2)) : Prop
    extends CarriesTunnels digests entry (sentPasswords digests entry response.attributes) rekeyed salts where
  code : rekeyed.code = response.code
  identifier : rekeyed.identifier = response.identifier
  fits : ∀ attr ∈ rekeyed.attributes, attr.Fits
  carried : rekeyed.attributes.filterMap (carried entry.proxyState) =
    response.attributes.filterMap (carried entry.proxyState)
  keys : CarriesKeys digests entry base (receivedKeys digests response entry) rekeyed
  fresh : ∀ salt ∈ salts, saltUnmarked salt = false ∧
    ((receivedKeys digests response entry).isSome → salt ≠ saltAt base 0 ∧ salt ≠ saltAt base 1)
  plain : ∀ attrType, attrType ≠ vendorSpecific.asU8 →
    attrType ≠ tunnelPassword.asU8 →
    rekeyed.attributes.filter (·.attrType = attrType) =
      (withoutProxyState response entry).attributes.filter (·.attrType = attrType)

theorem CarriesKeys.congr {base : UInt16} {left right : Packet} (carries : CarriesKeys digests entry base keys right)
    (same : ∀ vendorType, left.findVendorAttributes microsoftVendorId vendorType =
      right.findVendorAttributes microsoftVendorId vendorType) : CarriesKeys digests entry base keys left :=
  ⟨(same _).trans carries.send, (same _).trans carries.recv⟩

theorem filter_type_congr {left right : List Attribute} {excluded attrType : UInt8}
    (same : left.filter (·.attrType ≠ excluded) = right.filter (·.attrType ≠ excluded))
    (different : attrType ≠ excluded) : left.filter (·.attrType = attrType) = right.filter (·.attrType = attrType) := by
  refine Views.filter_congr_filter same fun attr isExcluded => ?_
  have type : attr.attrType = excluded := by simpa using isExcluded
  simpa [type] using different.symm

theorem sealedKey_salt {key secret : Octets} {requestAuthenticator : Block 16} {salt : Block 2} :
    (sealedKey digests key secret requestAuthenticator salt).take 2 = salt.octets :=
  List.take_left' salt.size

theorem CarriesKeys.saltsInUse {base : UInt16} (carries : CarriesKeys digests entry base keys packet) :
    saltsInUse packet = if keys.isSome then [(saltAt base 0).octets, (saltAt base 1).octets] else [] := by
  cases keys with
  | none => simp [Proxy.saltsInUse, carries.send, carries.recv]
  | some keys =>
    simp [Proxy.saltsInUse, carries.send, carries.recv, relayedKey, keySub, sealedKey_salt, sealedKey_length]

theorem passes_ok (draw : SaltDraw) (encodable : response.Encodable) :
    ∃ rekeyed salts,
      rekeyTunnelPasswords digests
        (rekeyMppeAttributes digests (withoutProxyState response entry) entry draw.mppe) entry draw.tunnel =
          .ok rekeyed ∧
      Rekeyed digests entry draw.mppe response rekeyed salts ∧
      rekeyed.attributes.filter (·.attrType ≠ tunnelPassword.asU8) =
        (rekeyMppeAttributes digests (withoutProxyState response entry) entry draw.mppe).attributes.filter
          (·.attrType ≠ tunnelPassword.asU8) := by
  have fits : ∀ attr ∈ (withoutProxyState response entry).attributes, attr.Fits :=
    fun attr member => encodable.fits attr (List.mem_of_mem_filter member)
  have mppe := @rekeyMppe_rekeyed digests entry draw.mppe _ fits
  generalize rekeyMppeAttributes digests (withoutProxyState response entry) entry draw.mppe = middle at mppe ⊢
  have keys := mppe.keys
  rw [withoutProxyState_receivedKeys] at keys
  have inUse := keys.saltsInUse
  have tunnelsKept : middle.attributes.filter (·.attrType = tunnelPassword.asU8) =
      response.attributes.filter (·.attrType = tunnelPassword.asU8) :=
    (filter_type_congr mppe.plain (by decide)).trans (withoutProxyState_filter _ (by decide))
  have bound : (middle.attributes.filter (·.attrType = tunnelPassword.asU8)).length +
      (saltsInUse middle).length ≤ 2 ^ 15 := by
    have filtered := List.length_filter_le (·.attrType = tunnelPassword.asU8) response.attributes
    have counted := response.attributes_length_le
    have small := encodable.small
    have few : (saltsInUse middle).length ≤ 2 := by
      rw [inUse]
      split <;> simp
    rw [tunnelsKept]
    simp only [maxPacketSize] at small
    omega
  obtain ⟨rekeyed, salts, run, tunnel⟩ := @rekeyTunnel_rekeyed digests entry middle draw.tunnel mppe.fits bound
  have passwords := @sentPasswords_congr digests entry _ _ tunnelsKept
  have found (vendorType : UInt8) : rekeyed.findVendorAttributes microsoftVendorId vendorType =
      middle.findVendorAttributes microsoftVendorId vendorType := by
    rw [findVendorAttributes_eq, findVendorAttributes_eq]
    refine Views.flatMap_congr_filter tunnel.plain fun attr isTunnel => subsOf_other ?_
    have type : attr.attrType = tunnelPassword.asU8 := by simpa using isTunnel
    simp [type, AttributeType.asU8]
  refine ⟨rekeyed, salts, run, ⟨passwords ▸ tunnel.toCarriesTunnels, tunnel.code.trans mppe.code,
    tunnel.identifier.trans mppe.identifier, tunnel.fits, ?_, keys.congr found, ?_, ?_⟩, tunnel.plain⟩
  · refine Eq.trans ?_ (mppe.carried.trans withoutProxyState_carried)
    refine Views.filterMap_congr_filter tunnel.plain fun attr isTunnel => ?_
    have type : attr.attrType = tunnelPassword.asU8 := by simpa using isTunnel
    simp [carried, replaced, type]
  · intro salt member
    obtain ⟨marked, unused⟩ := tunnel.fresh salt member
    refine ⟨marked, fun present => ?_⟩
    rw [inUse, if_pos present] at unused
    simpa [octets_inj] using unused
  · intro attrType notVendor notTunnel
    exact (filter_type_congr tunnel.plain notTunnel).trans (filter_type_congr mppe.plain notVendor)

end Passes

section Reading

variable {digests : Digests} {entry : ProxyCacheEntry} {base : UInt16} {relayed : Packet}

theorem CarriesKeys.read (carries : CarriesKeys digests entry base keys relayed) (small : ∀ found, keys = some found →
      found.sendKey.length ≤ maxKeyLength ∧ found.recvKey.length ≤ maxKeyLength) :
    fromPacket digests relayed entry.clientSecret entry.originalRequest.authenticator = .ok keys ∧
      ∀ sub ∈ mppeKeySubs relayed, ∃ key,
        decryptKey digests sub.value entry.clientSecret entry.originalRequest.authenticator = .ok key := by
  obtain ⟨send, recv⟩ := carries
  cases keys with
  | none => simp [fromPacket, mppeKeySubs, send, recv]
  | some keys =>
    obtain ⟨sendSmall, recvSmall⟩ := small keys rfl
    have sendRead := @decrypt_sealedKey digests keys.sendKey entry.clientSecret
      entry.originalRequest.authenticator (saltAt base 0) sendSmall (saltAt_marked base 0)
    have recvRead := @decrypt_sealedKey digests keys.recvKey entry.clientSecret
      entry.originalRequest.authenticator (saltAt base 1) recvSmall (saltAt_marked base 1)
    refine ⟨fromPacket_sealed sendSmall recvSmall (saltAt_marked base 0) (saltAt_marked base 1) send recv, ?_⟩
    simp [mppeKeySubs, send, recv, relayedKey, keySub, sendRead, recvRead]

theorem relayedTunnels_read {tunnels : List TunnelPassword} {salts : List (Block 2)}
    (fits : ∀ tunnel ∈ tunnels, tunnel.Fits) (marked : ∀ salt ∈ salts, saltUnmarked salt = false)
    (enough : tunnels.length ≤ salts.length) :
    (List.zipWith (relayedTunnel digests entry) tunnels salts).map (fun attr =>
      fromAttribute digests attr entry.clientSecret entry.originalRequest.authenticator) =
        tunnels.map .ok := by
  induction tunnels generalizing salts with
  | nil => simp
  | cons tunnel rest ih =>
    cases salts with
    | nil => simp at enough
    | cons salt salts =>
      obtain ⟨own, others⟩ := List.forall_mem_cons.mp fits
      obtain ⟨ownMarked, othersMarked⟩ := List.forall_mem_cons.mp marked
      have read := @fromAttribute_sealed digests tunnel entry.clientSecret
        entry.originalRequest.authenticator salt own ownMarked
      rw [List.zipWith_cons_cons, List.map_cons, List.map_cons,
        ih others othersMarked (by simpa using enough), relayedTunnel, read]

theorem relayedTunnels_salts (tunnels : List TunnelPassword) (salts : List (Block 2)) :
    (List.zipWith (relayedTunnel digests entry) tunnels salts).map (fun attr => (attr.value.drop 1).take 2) =
      (salts.take tunnels.length).map octets := by
  induction tunnels generalizing salts with
  | nil => simp
  | cons tunnel rest ih =>
    cases salts with
    | nil => simp
    | cons salt salts =>
      have own : ((relayedTunnel digests entry tunnel salt).value.drop 1).take 2 = salt.octets :=
        List.take_left' salt.size
      simp only [List.zipWith_cons_cons, List.map_cons, List.length_cons, List.take_succ_cons, own, ih]

end Reading

section Authenticating

variable {digests : Digests} {entry : ProxyCacheEntry} {base : UInt16} {response rekeyed result : Packet}
  {salts : List (Block 2)} {attrType : UInt8}

theorem hasAttribute_iff_filter {attributes : List Attribute} :
    hasAttribute attrType attributes = true ↔ attributes.filter (·.attrType = attrType) ≠ [] := by
  simp [hasAttribute, List.filter_eq_nil_iff]

theorem findAttribute_iff : packet.findAttribute attrType ≠ none ↔ hasAttribute attrType packet.attributes = true := by
  simp [findAttribute, hasAttribute]

theorem rekeyed_salts (passed : Rekeyed digests entry base response rekeyed salts) (relayed : Packet)
    (carries : CarriesKeys digests entry base (receivedKeys digests response entry) relayed)
    (tunnels : relayed.findAllAttributes tunnelPassword.asU8 =
      rekeyed.attributes.filter (·.attrType = tunnelPassword.asU8)) :
    (packetSalts relayed).Nodup ∧
      ∀ salt ∈ packetSalts relayed, ∃ block : Block 2, salt = block.octets ∧ saltUnmarked block = false := by
  have keySalts : (mppeKeySubs relayed).map (·.value.take 2) =
      (if (receivedKeys digests response entry).isSome then [saltAt base 0, saltAt base 1] else []).map
        octets := by
    rw [mppeKeySubs, carries.send, carries.recv]
    cases receivedKeys digests response entry with
    | none => simp
    | some keys => simp [relayedKey, keySub, sealedKey_salt]
  have all : packetSalts relayed =
      ((if (receivedKeys digests response entry).isSome then [saltAt base 0, saltAt base 1] else []) ++
        salts.take (sentPasswords digests entry response.attributes).length).map octets := by
    rw [packetSalts, keySalts, tunnels, passed.tunnels, relayedTunnels_salts, List.map_append]
  have fresh : ∀ salt ∈ salts.take (sentPasswords digests entry response.attributes).length, _ :=
    fun salt member => passed.fresh salt (List.mem_of_mem_take member)
  rw [all]
  refine ⟨List.Nodup.map (fun _ _ same => ext same) (List.Nodup.append ?_ ?_ ?_), ?_⟩
  · split
    · have different : saltAt base 0 ≠ saltAt base 1 := by
        intro same
        have := saltAt_injective base (by decide) (by decide) same
        omega
      simpa using different
    · exact List.nodup_nil
  · exact passed.distinct.sublist (List.take_sublist _ _)
  · intro salt keySalt tunnelSalt
    split at keySalt
    · rename_i present
      obtain ⟨notFirst, notSecond⟩ := (fresh salt tunnelSalt).2 present
      simp [notFirst, notSecond] at keySalt
    · simp at keySalt
  · intro octets member
    obtain ⟨salt, present, rfl⟩ := List.mem_map.mp member
    refine ⟨salt, rfl, ?_⟩
    rcases List.mem_append.mp present with keySalt | tunnelSalt
    · split at keySalt
      · rcases List.mem_pair.mp keySalt with rfl | rfl <;> exact saltAt_marked base _
      · simp at keySalt
    · exact (fresh salt tunnelSalt).1

theorem relayed_of_rekeyed (encodable : response.Encodable) (passed : Rekeyed digests entry base response rekeyed salts)
    (single : (response.findAllAttributes messageAuthenticator.asU8).length ≤ 1)
    (recomputed : recomputeMessageAuthenticator digests rekeyed entry.originalRequest.authenticator
      entry.clientSecret = .ok result) :
    Relayed digests entry response { result with
      authenticator := responseDigest digests result entry.originalRequest.authenticator entry.clientSecret } := by
  have oneSignature : signatures rekeyed.attributes ≤ 1 := by
    rw [signatures, passed.plain _ (by decide) (by decide), withoutProxyState_filter _ (by decide)]
    exact single
  have refreshed := recompute_refreshed recomputed
  have found (vendorType : UInt8) : result.findVendorAttributes microsoftVendorId vendorType =
      rekeyed.findVendorAttributes microsoftVendorId vendorType := by
    rw [findVendorAttributes_eq, findVendorAttributes_eq]
    exact refreshed.flatMap _ fun value => subsOf_other (show messageAuthenticator.asU8 ≠ _ by decide)
  have filtered (attrType : UInt8) (different : attrType ≠ messageAuthenticator.asU8) :
      result.attributes.filter (·.attrType = attrType) = rekeyed.attributes.filter (·.attrType = attrType) := by
    have seen := refreshed.filterMap (Option.guard (·.attrType = attrType))
      fun value => by simp [Option.guard, different.symm]
    simpa using seen
  have tunnels := filtered tunnelPassword.asU8 (by decide)
  have carries := passed.keys.congr found
  obtain ⟨keysRead, keysDecrypt⟩ := carries.read fun keys received => receivedKeys_small encodable.fits received
  have tunnelFits : ∀ tunnel ∈ sentPasswords digests entry response.attributes, tunnel.Fits := by
    intro tunnel member
    obtain ⟨attr, present, decrypted⟩ := List.mem_filterMap.mp member
    exact fromAttribute_fits (encodable.fits attr present) (Results.eq_ok_of_toOption decrypted)
  obtain ⟨distinct, marked⟩ := rekeyed_salts passed result carries tunnels
  refine ⟨refreshed.code.trans passed.code, refreshed.identifier.trans passed.identifier, ?_, ?_, ?_, keysRead, keysDecrypt,
    ?_, distinct, marked, ?_, ?_⟩
  · have compared := @verifyResponseAuthenticator_of_fits digests { result with
      authenticator := responseDigest digests result entry.originalRequest.authenticator entry.clientSecret }
      entry.originalRequest.authenticator entry.clientSecret (refreshed.fits passed.fits)
    rw [compared]
    simp
  · intro present
    by_cases needed : hasAttribute messageAuthenticator.asU8 rekeyed.attributes = true ∨
        hasAttribute eapMessage.asU8 rekeyed.attributes = true
    · obtain ⟨before, after, unsignedBefore, unsignedAfter, signable, rfl⟩ :=
        recompute_resigns oneSignature needed recomputed
      exact check_resigned unsignedBefore unsignedAfter signable _
    · rw [not_or, Bool.not_eq_true, Bool.not_eq_true] at needed
      rw [recompute_untouched needed.1 needed.2] at recomputed
      cases recomputed
      rw [findAttribute_iff, needed.1] at present
      cases present
  · intro present
    rw [findAttribute_iff, hasAttribute_iff_filter, filtered _ (by decide), ← hasAttribute_iff_filter] at present
    obtain ⟨before, after, _, _, _, rfl⟩ := recompute_resigns oneSignature (.inr present) recomputed
    rw [findAttribute_iff]
    simp [hasAttribute, resigned]
  · rw [findAllAttributes, tunnels, passed.tunnels]
    exact relayedTunnels_read tunnelFits (fun salt member => (passed.fresh salt member).1) passed.enough
  · intro attr member ours
    have kept : attr ∈ (withoutProxyState response entry).attributes := by
      have selected : attr ∈ result.attributes.filter (·.attrType = proxyState.asU8) :=
        List.mem_filter.mpr ⟨member, by simpa using ours.1⟩
      rw [filtered _ (by decide), passed.plain _ (by decide) (by decide)] at selected
      exact List.mem_of_mem_filter selected
    simp [withoutProxyState, ours] at kept
  · have seen := refreshed.filterMap (carried entry.proxyState) fun value => by simp [carried, replaced]
    exact seen.trans passed.carried

end Authenticating

theorem rewriteResponse_eq {digests : Digests} {entry : ProxyCacheEntry} {response rekeyed : Packet} {draw : SaltDraw}
    (verified : verifyResponseAuthenticator digests response entry.originalRequest.authenticator
      entry.homeServer.secret = .ok true) (run : rekeyTunnelPasswords digests
      (rekeyMppeAttributes digests (withoutProxyState response entry) entry draw.mppe) entry draw.tunnel = .ok rekeyed)
    (fits : ∀ attr ∈ rekeyed.attributes, attr.Fits) :
    rewriteResponseForNas digests response entry draw =
      liftError ((recomputeMessageAuthenticator digests rekeyed entry.originalRequest.authenticator
        entry.clientSecret).map fun result => { result with
          authenticator := responseDigest digests result entry.originalRequest.authenticator entry.clientSecret }) := by
  simp only [rewriteResponseForNas, verified, liftPanic_ok, Results.ok_bind, Bool.not_true,
    Bool.false_eq_true, if_false, run]
  cases recomputed : recomputeMessageAuthenticator digests rekeyed entry.originalRequest.authenticator
      entry.clientSecret with
  | error reason => rfl
  | ok result =>
    simp only [liftError_ok, Results.ok_bind, liftPanic_ok,
      calculateResponseAuthenticator_of_fits _ _ ((recompute_refreshed recomputed).fits fits)]
    rfl

/-- Response relaying: for a response that decodes and verifies under the home
server's secret, the rewriting never panics, and a response it returns reads
for the NAS as the home server's did. -/
theorem response_relayed {digests : Digests} {entry : ProxyCacheEntry} {data : Octets} {response : Packet}
    (draw : SaltDraw) (decoded : decode data = .ok response)
    (verified : verifyResponseAuthenticator digests response entry.originalRequest.authenticator
      entry.homeServer.secret = .ok true)
    (single : (response.findAllAttributes messageAuthenticator.asU8).length ≤ 1) :
    (∀ panic, rewriteResponseForNas digests response entry draw ≠ .error (.panic panic)) ∧
      ∀ relayed, rewriteResponseForNas digests response entry draw = .ok relayed →
        Relayed digests entry response relayed := by
  have encodable := (decode_eq_ok.mp decoded).1
  obtain ⟨rekeyed, salts, run, passed, _⟩ := @passes_ok digests entry response draw encodable
  rw [rewriteResponse_eq verified run passed.fits]
  cases recomputed : recomputeMessageAuthenticator digests rekeyed entry.originalRequest.authenticator
      entry.clientSecret with
  | error reason => simp [liftError, Except.map]
  | ok result =>
    refine ⟨by simp [liftError, Except.map], ?_⟩
    intro relayed assembled
    cases assembled
    exact relayed_of_rekeyed encodable passed single recomputed

/-- A request in flight between a client with secret `[1, 2]` and a home server
with secret `[4, 5]`. -/
def sampleEntry : ProxyCacheEntry where
  originalRequest := new .accessRequest 7 (fill 16 9)
  originalSource := ⟨.ofOctets 192 0 2 1, 1812⟩
  homeServer := { arc := 0, name := "home", address := ⟨.ofOctets 192 0 2 2, 1812⟩, secret := [4, 5], transport := .udp }
  sentAt := 0
  retryCount := 0
  proxyState := fill 16 3
  clientSecret := [1, 2]
  sentOnConnection := none

/-- An Access-Accept with EAP-Message, a Tunnel-Password, both MS-MPPE keys beside
another sub-attribute, and our Proxy-State. -/
def sampleAccept : Packet :=
  let unsigned : Packet :=
    { code := .accessAccept, identifier := 7, authenticator := zero 16
      attributes := [⟨eapMessage.asU8, [3, 1, 0, 4]⟩,
        ⟨tunnelPassword.asU8, sealedValue checksum ⟨1, [112, 119]⟩ [4, 5]
          (fill 16 9) (fill 2 200)⟩,
        ⟨vendorSpecific.asU8, VendorSpecific.combinedValue microsoftVendorId
          [keySub checksum msMppeSendKey [1, 2, 3] [4, 5] (fill 16 9) (fill 2 201),
            ⟨microsoftVendorId, 7, [0, 0, 0, 1]⟩,
            keySub checksum msMppeRecvKey [4, 5, 6] [4, 5] (fill 16 9) (fill 2 202)]⟩,
        ⟨proxyState.asU8, (fill 16 3).octets⟩] }
  { unsigned with authenticator := responseDigest checksum unsigned (fill 16 9) [4, 5] }

theorem sampleAccept_relayed :
    ∃ relayed, rewriteResponseForNas checksum sampleAccept sampleEntry ⟨17, 16⟩ = .ok relayed ∧
      Relayed checksum sampleEntry sampleAccept relayed := by
  have encodable : sampleAccept.Encodable := by decide +kernel
  have verified : verifyResponseAuthenticator checksum sampleAccept
      sampleEntry.originalRequest.authenticator sampleEntry.homeServer.secret = .ok true := by
    rw [verifyResponseAuthenticator_of_fits _ _ encodable.fits]
    exact congrArg Except.ok (decide_eq_true rfl)
  have single : (sampleAccept.findAllAttributes messageAuthenticator.asU8).length ≤ 1 := by
    decide +kernel
  have decoded : decode sampleAccept.bytes = .ok sampleAccept :=
    decode_eq_ok.mpr ⟨encodable, List.prefix_rfl⟩
  obtain ⟨relayed, rewritten⟩ : ∃ relayed,
      rewriteResponseForNas checksum sampleAccept sampleEntry ⟨17, 16⟩ = .ok relayed :=
    Results.exists_of_isOk (by decide +kernel)
  exact ⟨relayed, rewritten, (response_relayed ⟨17, 16⟩ decoded verified single).2 relayed rewritten⟩

end UsgRadius.Proxy
