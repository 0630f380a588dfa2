import UsgRadius.Proxy.Rewrite
import Mathlib.Algebra.Order.BigOperators.Group.List

namespace UsgRadius.Proxy

open Data Salted Mppe VendorSpecific
open AttributeType (tunnelPassword vendorSpecific)

variable {attr : Attribute} {attributes : List Attribute} {vendorType : UInt8}

/-! The two re-encryption passes over a response, one at a time: what each
writes and what it leaves alone. -/

def vendorSubs (attr : Attribute) : Option (List VendorSpecific) :=
  if attr.attrType = vendorSpecific.asU8 then
    (decodeValue attr.value).toOption
  else
    none

def subsOf (vendorId : UInt32) (vendorType : UInt8) (attr : Attribute) : List VendorSpecific :=
  ((vendorSubs attr).getD []).filter fun sub => sub.vendorId = vendorId ∧ sub.vendorType = vendorType

theorem findVendorAttributes_eq (packet : Packet) (vendorId : UInt32) (vendorType : UInt8) :
    packet.findVendorAttributes vendorId vendorType =
      packet.attributes.flatMap (subsOf vendorId vendorType) := by
  unfold Packet.findVendorAttributes
  induction packet.attributes with
  | nil => rfl
  | cons attr rest ih =>
    by_cases isVendor : attr.attrType = vendorSpecific.asU8
    · rw [List.filter_cons_of_pos (by simpa using isVendor), List.flatMap_cons, ← ih]
      simp only [subsOf, vendorSubs, if_pos isVendor, List.filterMap_cons]
      cases (decodeValue attr.value).toOption with
      | none | some subs => simp
    · rw [List.filter_cons_of_neg (by simpa using isVendor), List.flatMap_cons, ← ih]
      simp [subsOf, vendorSubs, isVendor]

/-- What an attribute carries besides MS-MPPE keys: itself, or the remaining
sub-attributes of a Vendor-Specific attribute that decodes, if any remain. -/
def content (attr : Attribute) : Option (Attribute ⊕ List VendorSpecific) :=
  match vendorSubs attr with
  | none => some (.inl attr)
  | some subs =>
    if subs.filter (!isMppeKey ·) = [] then none else some (.inr (subs.filter (!isMppeKey ·)))

inductive Stripped (attr : Attribute) : Prop
  | opaqueValue (undecoded : vendorSubs attr = none) (kept : stripMppeAttribute attr = some attr)
  | keyless {subs : List VendorSpecific} (decoded : vendorSubs attr = some subs)
      (keyless : ∀ sub ∈ subs, isMppeKey sub = false) (kept : stripMppeAttribute attr = some attr)
  | emptied {subs : List VendorSpecific} (decoded : vendorSubs attr = some subs)
      (nothingLeft : subs.filter (!isMppeKey ·) = []) (dropped : stripMppeAttribute attr = none)
  | reduced {subs : List VendorSpecific} {rest : Attribute} (decoded : vendorSubs attr = some subs)
      (somethingLeft : subs.filter (!isMppeKey ·) ≠ []) (rewritten : stripMppeAttribute attr = some rest)
      (remaining : vendorSubs rest = some (subs.filter (!isMppeKey ·)))
      (type : rest.attrType = vendorSpecific.asU8) (fits : rest.Fits)

theorem combinedValue_filter_length (vendorId : UInt32) (keep : VendorSpecific → Bool) (subs : List VendorSpecific) :
    (combinedValue vendorId (subs.filter keep)).length ≤
      (combinedValue vendorId subs).length := by
  simp only [combinedValue, List.length_append, flatMap_encodeSubAttribute_length]
  have shorter : ((subs.filter keep).map encodedLength).sum ≤
      (subs.map encodedLength).sum :=
    ((List.filter_sublist).map _).sum_le_sum (fun _ _ => Nat.zero_le _)
  omega

theorem stripped_cases (fits : attr.Fits) : Stripped attr := by
  by_cases isVendor : attr.attrType = vendorSpecific.asU8
  · cases decoded : decodeValue attr.value with
    | error reason =>
      exact .opaqueValue (by simp [vendorSubs, isVendor, decoded, Except.toOption])
        (by simp [stripMppeAttribute, fromAttribute, isVendor, decoded])
    | ok subs =>
      have known : vendorSubs attr = some subs := by
        simp [vendorSubs, isVendor, decoded, Except.toOption]
      have unpacked : fromAttribute attr = .ok subs := by
        simp [fromAttribute, isVendor, decoded]
      cases carriesKey : subs.any isMppeKey with
      | false =>
        refine .keyless known (fun sub member => by simpa using List.any_eq_false.mp carriesKey sub member) ?_
        simp [stripMppeAttribute, unpacked, carriesKey]
      | true =>
        by_cases empty : subs.filter (!isMppeKey ·) = []
        · exact .emptied known empty (by simp [stripMppeAttribute, isVendor, unpacked, carriesKey, empty])
        · obtain ⟨vendorId, present, subsFit, value⟩ := decodeValue_sound decoded
          have remainingFit : ∀ sub ∈ subs.filter (!isMppeKey ·), VendorSpecific.Fits vendorId sub :=
            fun sub member => subsFit sub (List.mem_of_mem_filter member)
          have small : (combinedValue vendorId (subs.filter (!isMppeKey ·))).length ≤
              Attribute.maxValueLength := by
            refine (combinedValue_filter_length vendorId _ subs).trans ?_
            rw [← value]
            exact fits
          have combined := toAttributeCombined_of_fits empty remainingFit small
          have rewritten : stripMppeAttribute attr = some ⟨vendorSpecific.asU8,
              combinedValue vendorId (subs.filter (!isMppeKey ·))⟩ := by
            simp [stripMppeAttribute, isVendor, unpacked, carriesKey, empty, combined]
          refine .reduced known empty rewritten ?_ rfl small
          simp [vendorSubs, decodeValue_complete empty remainingFit, Except.toOption]
  · exact .opaqueValue (by simp [vendorSubs, isVendor]) (by simp [stripMppeAttribute, isVendor])

theorem vendorSubs_type {subs : List VendorSpecific} (decoded : vendorSubs attr = some subs) :
    attr.attrType = vendorSpecific.asU8 := by
  unfold vendorSubs at decoded
  split at decoded
  · assumption
  · cases decoded

/-- The attributes a response loses or gets new: Message-Authenticators,
Tunnel-Passwords and the Proxy-State this proxy added. -/
def replaced (proxyState : ProxyStateKey) (attr : Attribute) : Bool :=
  attr.attrType = AttributeType.messageAuthenticator.asU8 ||
    attr.attrType = tunnelPassword.asU8 ||
      (attr.attrType = AttributeType.proxyState.asU8 && attr.value = proxyState.octets)

/-- What the NAS must find unchanged. -/
def carried (proxyState : ProxyStateKey) (attr : Attribute) : Option (Attribute ⊕ List VendorSpecific) :=
  if replaced proxyState attr then none else content attr

theorem carried_vendor {proxyState : ProxyStateKey} {attr : Attribute}
    (type : attr.attrType = vendorSpecific.asU8) : carried proxyState attr = content attr := by
  simp [carried, replaced, type, AttributeType.asU8]

theorem strip_carried (proxyState : ProxyStateKey) (fits : attr.Fits) :
    (stripMppeAttribute attr).bind (carried proxyState) = carried proxyState attr := by
  cases stripped_cases fits with
  | opaqueValue _ kept | keyless _ _ kept => rw [kept, Option.bind_some]
  | emptied decoded nothingLeft dropped =>
    rw [dropped, Option.bind_none, carried_vendor (vendorSubs_type decoded)]
    simp [content, decoded, nothingLeft]
  | reduced decoded somethingLeft rewritten remaining type _ =>
    rw [rewritten, Option.bind_some, carried_vendor type, carried_vendor (vendorSubs_type decoded)]
    simp [content, decoded, remaining, somethingLeft, List.filter_filter]

theorem strip_other (type : attr.attrType ≠ vendorSpecific.asU8) :
    stripMppeAttribute attr = some attr := by
  simp [stripMppeAttribute, type]

theorem strip_keyless (keyless : ∀ sub ∈ (vendorSubs attr).getD [], isMppeKey sub = false) :
    stripMppeAttribute attr = some attr := by
  by_cases isVendor : attr.attrType = vendorSpecific.asU8
  · cases decoded : decodeValue attr.value with
    | error reason => simp [stripMppeAttribute, fromAttribute, isVendor, decoded]
    | ok subs =>
      have none : subs.any isMppeKey = false := by
        rw [List.any_eq_false]
        intro sub member
        rw [Bool.not_eq_true]
        exact keyless sub (by simpa [vendorSubs, isVendor, decoded, Except.toOption] using member)
      simp [stripMppeAttribute, fromAttribute, isVendor, decoded, none]
  · exact strip_other isVendor

theorem strip_kept {rest : Attribute} (fits : attr.Fits) (kept : stripMppeAttribute attr = some rest) :
    rest.attrType = attr.attrType ∧ rest.Fits ∧
      ∀ sub ∈ (vendorSubs rest).getD [], isMppeKey sub = false := by
  cases stripped_cases fits with
  | opaqueValue undecoded same =>
    cases same.symm.trans kept
    exact ⟨rfl, fits, by simp [undecoded]⟩
  | keyless decoded keyless same =>
    cases same.symm.trans kept
    exact ⟨rfl, fits, by simpa [decoded] using keyless⟩
  | emptied _ _ dropped => cases dropped.symm.trans kept
  | reduced decoded _ rewritten remaining type restFits =>
    cases rewritten.symm.trans kept
    refine ⟨type.trans (vendorSubs_type decoded).symm, restFits, ?_⟩
    intro sub member
    rw [remaining, Option.getD_some, List.mem_filter] at member
    simpa using member.2

theorem isMppeKey_iff {sub : VendorSpecific} : isMppeKey sub = true ↔
    sub.vendorId = microsoftVendorId ∧
      (sub.vendorType = msMppeSendKey ∨ sub.vendorType = msMppeRecvKey) := by
  simp [isMppeKey]

theorem strip_no_keys (fits : ∀ attr ∈ attributes, attr.Fits)
    (key : vendorType = msMppeSendKey ∨ vendorType = msMppeRecvKey) :
    (attributes.filterMap stripMppeAttribute).flatMap (subsOf microsoftVendorId vendorType) = [] := by
  rw [List.flatMap_eq_nil_iff]
  intro rest member
  obtain ⟨attr, present, kept⟩ := List.mem_filterMap.mp member
  obtain ⟨_, _, keyless⟩ := strip_kept (fits attr present) kept
  rw [subsOf, List.filter_eq_nil_iff]
  intro sub subMember matching
  have isKey : isMppeKey sub = true := by
    rw [isMppeKey_iff]
    obtain ⟨vendor, type⟩ := of_decide_eq_true matching
    exact ⟨vendor, type ▸ key⟩
  rw [keyless sub subMember] at isKey
  cases isKey

section Mppe

variable {digests : Digests} {entry : ProxyCacheEntry} {base : UInt16} {response : Packet} {attributes : List Attribute}
  {sub : VendorSpecific}

theorem sub_small (fits : ∀ attr ∈ attributes, attr.Fits) {vendorId : UInt32}
    (member : sub ∈ attributes.flatMap (subsOf vendorId vendorType)) :
    sub.value.length ≤ maxValueLength := by
  obtain ⟨attr, present, subMember⟩ := List.mem_flatMap.mp member
  have inside := List.mem_of_mem_filter subMember
  cases known : vendorSubs attr with
  | none => simp [known] at inside
  | some subs =>
    rw [known, Option.getD_some] at inside
    have type := vendorSubs_type known
    cases decoded : decodeValue attr.value with
    | error reason => simp [vendorSubs, type, decoded, Except.toOption] at known
    | ok found =>
      obtain rfl : found = subs := by simpa [vendorSubs, type, decoded, Except.toOption] using known
      obtain ⟨owner, _, _, value⟩ := decodeValue_sound decoded
      have total := fits attr present
      rw [Attribute.Fits, value, combinedValue, List.length_append,
        flatMap_encodeSubAttribute_length] at total
      have own := List.single_le_sum (fun _ _ => Nat.zero_le _) _
        (List.mem_map_of_mem (f := encodedLength) inside)
      simp only [encodedLength, subHeaderLength, idBytes_length,
        maxValueLength, vendorIdLength, Attribute.maxValueLength] at *
      omega

def receivedKeys (digests : Digests) (response : Packet) (entry : ProxyCacheEntry) : Option MppeKeys :=
  match MppeKeys.fromPacket digests response entry.homeServer.secret entry.originalRequest.authenticator with
  | .ok keys => keys
  | .error _ => none

theorem receivedKeys_small (fits : ∀ attr ∈ response.attributes, attr.Fits) {keys : MppeKeys}
    (received : receivedKeys digests response entry = some keys) :
    keys.sendKey.length ≤ maxKeyLength ∧ keys.recvKey.length ≤ maxKeyLength := by
  unfold receivedKeys at received
  split at received
  · rename_i found read
    subst received
    simp only [MppeKeys.fromPacket, findVendorAttributes_eq] at read
    split at read
    · cases read
    · rename_i send recv sendFirst recvFirst
      simp only [Results.bind_eq_ok] at read
      obtain ⟨sendKey, sendDecrypted, recvKey, recvDecrypted, assembled⟩ := read
      cases assembled
      exact ⟨decryptKey_small (sub_small fits (List.mem_of_head? sendFirst)) sendDecrypted,
        decryptKey_small (sub_small fits (List.mem_of_head? recvFirst)) recvDecrypted⟩
    · cases read
    · cases read
  · cases received

def relayedKey (digests : Digests) (entry : ProxyCacheEntry) (vendorType : UInt8) (key : Octets)
    (salt : Block 2) : VendorSpecific :=
  keySub digests vendorType key entry.clientSecret entry.originalRequest.authenticator salt

def keyAttributes (digests : Digests) (entry : ProxyCacheEntry) (base : UInt16) (keys : MppeKeys) : List Attribute :=
  [keyAttribute digests msMppeSendKey keys.sendKey entry.clientSecret entry.originalRequest.authenticator
      (saltAt base 0),
    keyAttribute digests msMppeRecvKey keys.recvKey entry.clientSecret entry.originalRequest.authenticator
      (saltAt base 1)]

theorem strip_nothing {secret : Octets} {requestAuthenticator : Block 16}
    (read : MppeKeys.fromPacket digests response secret requestAuthenticator = .ok none) :
    response.attributes.filterMap stripMppeAttribute = response.attributes := by
  have keyless (vendorType : UInt8) (key : vendorType = msMppeSendKey ∨ vendorType = msMppeRecvKey) :
      ∀ attr ∈ response.attributes, subsOf microsoftVendorId vendorType attr = [] := by
    rw [← List.flatMap_eq_nil_iff, ← findVendorAttributes_eq]
    simp only [MppeKeys.fromPacket] at read
    split at read
    · rename_i noSend noRecv
      rcases key with rfl | rfl
      · exact List.head?_eq_none_iff.mp noSend
      · exact List.head?_eq_none_iff.mp noRecv
    · simp only [Results.bind_eq_ok] at read
      obtain ⟨_, _, _, _, assembled⟩ := read
      cases assembled
    · cases read
    · cases read
  rw [← @List.filterMap_some _ response.attributes, List.filterMap_filterMap]
  refine List.filterMap_congr fun attr member => strip_keyless fun sub subMember => ?_
  rw [← Bool.not_eq_true, isMppeKey_iff]
  rintro ⟨vendor, type⟩
  have none := keyless sub.vendorType type attr member
  rw [subsOf, List.filter_eq_nil_iff] at none
  exact none sub subMember (decide_eq_true ⟨vendor, rfl⟩)

/-- The exchange of the keys: all that were there are taken out, and the pair
that decrypted is added again under the client secret. -/
theorem rekeyMppe_eq (fits : ∀ attr ∈ response.attributes, attr.Fits) :
    rekeyMppeAttributes digests response entry base = { response with
      attributes := response.attributes.filterMap stripMppeAttribute ++
        ((receivedKeys digests response entry).map (keyAttributes digests entry base)).getD [] } := by
  cases read : MppeKeys.fromPacket digests response entry.homeServer.secret
      entry.originalRequest.authenticator with
  | error reason => simp [rekeyMppeAttributes, receivedKeys, read, stripMppeAttributes]
  | ok found =>
    cases found with
    | none => simp [rekeyMppeAttributes, receivedKeys, read, strip_nothing read]
    | some keys =>
      have received : receivedKeys digests response entry = some keys := by simp [receivedKeys, read]
      obtain ⟨sendSmall, recvSmall⟩ := receivedKeys_small fits received
      simp [rekeyMppeAttributes, read, received, MppeKeys.toAttributes_eq sendSmall recvSmall,
        stripMppeAttributes, Packet.addAttribute, keyAttributes]

/-- The keys of a packet are these, under the client secret. -/
structure CarriesKeys (digests : Digests) (entry : ProxyCacheEntry) (base : UInt16) (keys : Option MppeKeys)
    (packet : Packet) : Prop where
  send : packet.findVendorAttributes microsoftVendorId msMppeSendKey =
    (keys.map fun keys => relayedKey digests entry msMppeSendKey keys.sendKey (saltAt base 0)).toList
  recv : packet.findVendorAttributes microsoftVendorId msMppeRecvKey =
    (keys.map fun keys => relayedKey digests entry msMppeRecvKey keys.recvKey (saltAt base 1)).toList

structure MppeRekeyed (digests : Digests) (entry : ProxyCacheEntry) (base : UInt16)
    (response rekeyed : Packet) : Prop where
  code : rekeyed.code = response.code
  identifier : rekeyed.identifier = response.identifier
  fits : ∀ attr ∈ rekeyed.attributes, attr.Fits
  carried : rekeyed.attributes.filterMap (carried entry.proxyState) =
    response.attributes.filterMap (carried entry.proxyState)
  plain : rekeyed.attributes.filter (·.attrType ≠ vendorSpecific.asU8) =
    response.attributes.filter (·.attrType ≠ vendorSpecific.asU8)
  keys : CarriesKeys digests entry base (receivedKeys digests response entry) rekeyed

theorem strip_plain (attributes : List Attribute) (fits : ∀ attr ∈ attributes, attr.Fits) :
    (attributes.filterMap stripMppeAttribute).filter (·.attrType ≠ vendorSpecific.asU8) =
      attributes.filter (·.attrType ≠ vendorSpecific.asU8) := by
  induction attributes with
  | nil => rfl
  | cons attr rest ih =>
    obtain ⟨own, others⟩ := List.forall_mem_cons.mp fits
    by_cases type : attr.attrType = vendorSpecific.asU8
    · rw [List.filter_cons_of_neg (by simpa using type), ← ih others, List.filterMap_cons]
      cases kept : stripMppeAttribute attr with
      | none => rfl
      | some stripped =>
        have same := (strip_kept own kept).1
        exact List.filter_cons_of_neg (by simpa [type] using same)
    · rw [List.filterMap_cons_some (strip_other type), List.filter_cons_of_pos (by simpa using type),
        List.filter_cons_of_pos (by simpa using type), ih others]

theorem strip_carried_list (proxyState : ProxyStateKey) (fits : ∀ attr ∈ attributes, attr.Fits) :
    (attributes.filterMap stripMppeAttribute).filterMap (carried proxyState) =
      attributes.filterMap (carried proxyState) := by
  rw [List.filterMap_filterMap]
  exact List.filterMap_congr fun attr member => strip_carried proxyState (fits attr member)

theorem strip_fits (fits : ∀ attr ∈ attributes, attr.Fits) :
    ∀ attr ∈ attributes.filterMap stripMppeAttribute, attr.Fits := by
  intro rest member
  obtain ⟨attr, present, kept⟩ := List.mem_filterMap.mp member
  exact (strip_kept (fits attr present) kept).2.1

theorem keyAttribute_subs {vendorType : UInt8} {key secret : Octets} {requestAuthenticator : Block 16} {salt : Block 2}
    (small : key.length ≤ maxKeyLength) :
    vendorSubs (keyAttribute digests vendorType key secret requestAuthenticator salt) =
      some [keySub digests vendorType key secret requestAuthenticator salt] := by
  have subFits : ∀ sub ∈ [keySub digests vendorType key secret requestAuthenticator salt],
      VendorSpecific.Fits microsoftVendorId sub := by
    simpa using keySub_fits small
  simp [vendorSubs, keyAttribute, decodeValue_complete (List.cons_ne_nil _ _) subFits,
    Except.toOption]

theorem subsOf_single (decoded : vendorSubs attr = some [sub]) (vendorId : UInt32) (vendorType : UInt8) :
    subsOf vendorId vendorType attr =
      if sub.vendorId = vendorId ∧ sub.vendorType = vendorType then [sub] else [] := by
  simp [subsOf, decoded, List.filter_cons]

theorem rekeyMppe_rekeyed (fits : ∀ attr ∈ response.attributes, attr.Fits) :
    MppeRekeyed digests entry base response (rekeyMppeAttributes digests response entry base) := by
  rw [rekeyMppe_eq fits]
  cases received : receivedKeys digests response entry with
  | none =>
    rw [Option.map_none, Option.getD_none, List.append_nil]
    refine ⟨rfl, rfl, strip_fits fits, strip_carried_list _ fits, strip_plain _ fits, received ▸ ⟨?_, ?_⟩⟩
    · rw [findVendorAttributes_eq]
      exact strip_no_keys fits (.inl rfl)
    · rw [findVendorAttributes_eq]
      exact strip_no_keys fits (.inr rfl)
  | some keys =>
    rw [Option.map_some, Option.getD_some]
    obtain ⟨sendSmall, recvSmall⟩ := receivedKeys_small fits received
    have sendSubs := @keyAttribute_subs digests msMppeSendKey _ entry.clientSecret
      entry.originalRequest.authenticator (saltAt base 0) sendSmall
    have recvSubs := @keyAttribute_subs digests msMppeRecvKey _ entry.clientSecret
      entry.originalRequest.authenticator (saltAt base 1) recvSmall
    refine ⟨rfl, rfl, ?_, ?_, ?_, received ▸ ⟨?_, ?_⟩⟩
    · refine List.forall_mem_append.mpr ⟨strip_fits fits, ?_⟩
      simp [keyAttributes, keyAttribute_fits sendSmall, keyAttribute_fits recvSmall]
    · have sendDropped := @carried_vendor entry.proxyState _ (vendorSubs_type sendSubs)
      have recvDropped := @carried_vendor entry.proxyState _ (vendorSubs_type recvSubs)
      rw [List.filterMap_append, strip_carried_list _ fits]
      simp [keyAttributes, sendDropped, recvDropped, content, sendSubs, recvSubs, isMppeKey, keySub]
    · rw [List.filter_append, strip_plain _ fits]
      simp [keyAttributes, keyAttribute]
    · rw [findVendorAttributes_eq, List.flatMap_append, strip_no_keys fits (.inl rfl)]
      simp only [keyAttributes, List.flatMap_cons, List.flatMap_nil, subsOf_single sendSubs, subsOf_single recvSubs]
      rfl
    · rw [findVendorAttributes_eq, List.flatMap_append, strip_no_keys fits (.inr rfl)]
      simp only [keyAttributes, List.flatMap_cons, List.flatMap_nil, subsOf_single sendSubs, subsOf_single recvSubs]
      rfl

end Mppe

section FreshSalts

variable (base : UInt16) {count : Nat} {inUse : List Octets}

theorem freshSalts_length (bound : count + inUse.length ≤ 2 ^ 15) : (freshSalts base count inUse).length = count := by
  have nodup := generateSalts_nodup base bound
  have taken : ((generateSalts base (count + inUse.length)).filter (·.octets ∈ inUse)).length ≤ inUse.length := by
    rw [← List.length_map (f := Block.octets)]
    refine (List.subperm_of_subset ?_ ?_).length_le
    · exact (nodup.filter _).map fun _ _ same => Block.ext same
    · grind
  have total : (generateSalts base (count + inUse.length)).length = count + inUse.length := by
    simp [generateSalts]
  have parts := List.length_eq_length_filter_add (l := generateSalts base (count + inUse.length))
    (fun salt => decide (salt.octets ∈ inUse))
  have left : ((generateSalts base (count + inUse.length)).filter (·.octets ∉ inUse)) =
      (generateSalts base (count + inUse.length)).filter (fun salt => !decide (salt.octets ∈ inUse)) := by
    simp
  rw [freshSalts, List.length_take, left]
  omega

theorem freshSalts_member {salt : Block 2} (member : salt ∈ freshSalts base count inUse) :
    saltUnmarked salt = false ∧ salt.octets ∉ inUse := by
  have filtered := List.mem_filter.mp (List.mem_of_mem_take member)
  obtain ⟨index, _, rfl⟩ := List.mem_map.mp filtered.1
  exact ⟨saltAt_marked base index, by simpa using filtered.2⟩

end FreshSalts

section Tunnel

variable {digests : Digests} {entry : ProxyCacheEntry}

def tunnelPasswords (digests : Digests) (attributes : List Attribute) (secret : Octets)
    (requestAuthenticator : Block 16) : List TunnelPassword :=
  attributes.filterMap fun attr => (TunnelPassword.fromAttribute digests attr secret requestAuthenticator).toOption

/-- The passwords the home server sent. -/
abbrev sentPasswords (digests : Digests) (entry : ProxyCacheEntry) (attributes : List Attribute) : List TunnelPassword :=
  tunnelPasswords digests attributes entry.homeServer.secret entry.originalRequest.authenticator

theorem sentPasswords_cons (attr : Attribute) (rest : List Attribute) :
    sentPasswords digests entry (attr :: rest) = (TunnelPassword.fromAttribute digests attr entry.homeServer.secret
      entry.originalRequest.authenticator).toOption.toList ++ sentPasswords digests entry rest := by
  simp only [sentPasswords, tunnelPasswords, List.filterMap_eq_flatMap_toList, List.flatMap_cons]

def relayedTunnel (digests : Digests) (entry : ProxyCacheEntry) (tunnel : TunnelPassword) (salt : Block 2) :
    Attribute :=
  ⟨tunnelPassword.asU8, TunnelPassword.sealedValue digests tunnel entry.clientSecret
    entry.originalRequest.authenticator salt⟩

theorem relayedTunnel_fits {tunnel : TunnelPassword} {salt : Block 2} (fits : tunnel.Fits) :
    (relayedTunnel digests entry tunnel salt).Fits := by
  have small := fits.small
  simp only [Attribute.Fits, relayedTunnel, TunnelPassword.sealedValue_length, Attribute.maxValueLength,
    TunnelPassword.maxPasswordLength] at *
  omega

/-- The attribute loop never runs out of salts: it exchanges every password
that decrypts, drops those that do not and passes the rest on. -/
theorem tunnelLoop_ok {salts : List (Block 2)} (fits : ∀ attr ∈ attributes, attr.Fits)
    (marked : ∀ salt ∈ salts, saltUnmarked salt = false)
    (enough : (sentPasswords digests entry attributes).length ≤ salts.length) :
    ∃ rewritten, rekeyTunnelPasswordLoop digests entry attributes salts = .ok rewritten ∧
      (∀ attr ∈ rewritten, attr.Fits) ∧
      rewritten.filter (·.attrType ≠ tunnelPassword.asU8) =
        attributes.filter (·.attrType ≠ tunnelPassword.asU8) ∧
      rewritten.filter (·.attrType = tunnelPassword.asU8) =
        List.zipWith (relayedTunnel digests entry) (sentPasswords digests entry attributes) salts := by
  induction attributes generalizing salts with
  | nil => exact ⟨[], rfl, by simp, rfl, by simp [tunnelPasswords]⟩
  | cons attr rest ih =>
    obtain ⟨own, others⟩ := List.forall_mem_cons.mp fits
    by_cases isTunnel : attr.attrType = tunnelPassword.asU8
    · cases decrypted : TunnelPassword.fromAttribute digests attr entry.homeServer.secret
          entry.originalRequest.authenticator with
      | error reason =>
        rw [sentPasswords_cons, decrypted] at enough ⊢
        obtain ⟨rewritten, run, fitsRewritten, plain, tunnels⟩ := ih others marked enough
        refine ⟨rewritten, ?_, fitsRewritten, ?_, tunnels⟩
        · simp [rekeyTunnelPasswordLoop, isTunnel, decrypted, run]
        · rw [plain, List.filter_cons_of_neg (by simpa using isTunnel)]
      | ok tunnel =>
        rw [sentPasswords_cons, decrypted] at enough ⊢
        cases salts with
        | nil => cases enough
        | cons salt remaining =>
          obtain ⟨markedFirst, markedRest⟩ := List.forall_mem_cons.mp marked
          have tunnelFits := TunnelPassword.fromAttribute_fits own decrypted
          have sealed := @TunnelPassword.toAttributeWithSalt_eq digests tunnel entry.clientSecret
            entry.originalRequest.authenticator salt tunnelFits markedFirst
          obtain ⟨rewritten, run, fitsRewritten, plain, tunnels⟩ :=
            ih others markedRest (Nat.le_of_succ_le_succ enough)
          refine ⟨relayedTunnel digests entry tunnel salt :: rewritten, ?_, ?_, ?_, ?_⟩
          · simp only [rekeyTunnelPasswordLoop, isTunnel, ne_eq, not_true, if_false, decrypted, sealed, run,
              Results.ok_bind]
            rfl
          · exact List.forall_mem_cons.mpr ⟨relayedTunnel_fits tunnelFits, fitsRewritten⟩
          · rw [List.filter_cons_of_neg (by simp [relayedTunnel]), plain,
              List.filter_cons_of_neg (by simpa using isTunnel)]
          · rw [List.filter_cons_of_pos (by simp [relayedTunnel]), tunnels]
            rfl
    · have skipped : sentPasswords digests entry (attr :: rest) = sentPasswords digests entry rest := by
        simp [sentPasswords_cons, TunnelPassword.fromAttribute, isTunnel, Except.toOption]
      rw [skipped] at enough ⊢
      obtain ⟨rewritten, run, fitsRewritten, plain, tunnels⟩ := ih others marked enough
      refine ⟨attr :: rewritten, ?_, List.forall_mem_cons.mpr ⟨own, fitsRewritten⟩, ?_, ?_⟩
      · simp only [rekeyTunnelPasswordLoop, ne_eq, isTunnel, not_false_eq_true, if_true, run, Results.ok_bind]
        rfl
      · grind
      · rw [List.filter_cons_of_neg (by simpa using isTunnel), tunnels]

theorem sentPasswords_congr {left right : List Attribute}
    (same : left.filter (·.attrType = tunnelPassword.asU8) =
      right.filter (·.attrType = tunnelPassword.asU8)) :
    sentPasswords digests entry left = sentPasswords digests entry right := by
  refine Views.filterMap_congr_filter same fun attr other => ?_
  have other : attr.attrType ≠ tunnelPassword.asU8 := by simpa using other
  simp [TunnelPassword.fromAttribute, other, Except.toOption]

theorem sentPasswords_length_le (attributes : List Attribute) : (sentPasswords digests entry attributes).length ≤
    (attributes.filter (·.attrType = tunnelPassword.asU8)).length := by
  have same : attributes.filter (·.attrType = tunnelPassword.asU8) =
      (attributes.filter (·.attrType = tunnelPassword.asU8)).filter
        (·.attrType = tunnelPassword.asU8) := by
    simp [List.filter_filter]
  rw [sentPasswords_congr same]
  exact List.length_filterMap_le _ _

/-- The Tunnel-Passwords of a packet are these, each under a salt of its own. -/
structure CarriesTunnels (digests : Digests) (entry : ProxyCacheEntry) (passwords : List TunnelPassword)
    (packet : Packet) (salts : List (Block 2)) : Prop where
  tunnels : packet.attributes.filter (·.attrType = tunnelPassword.asU8) =
    List.zipWith (relayedTunnel digests entry) passwords salts
  enough : passwords.length ≤ salts.length
  distinct : salts.Nodup

structure TunnelRekeyed (digests : Digests) (entry : ProxyCacheEntry) (response rekeyed : Packet)
    (salts : List (Block 2)) : Prop
    extends CarriesTunnels digests entry (sentPasswords digests entry response.attributes) rekeyed salts where
  code : rekeyed.code = response.code
  identifier : rekeyed.identifier = response.identifier
  fits : ∀ attr ∈ rekeyed.attributes, attr.Fits
  plain : rekeyed.attributes.filter (·.attrType ≠ tunnelPassword.asU8) =
    response.attributes.filter (·.attrType ≠ tunnelPassword.asU8)
  fresh : ∀ salt ∈ salts, saltUnmarked salt = false ∧ salt.octets ∉ saltsInUse response

theorem rekeyTunnel_rekeyed {response : Packet} (base : UInt16) (fits : ∀ attr ∈ response.attributes, attr.Fits)
    (bound : (response.attributes.filter (·.attrType = tunnelPassword.asU8)).length +
      (saltsInUse response).length ≤ 2 ^ 15) :
    ∃ rekeyed salts, rekeyTunnelPasswords digests response entry base = .ok rekeyed ∧
      TunnelRekeyed digests entry response rekeyed salts := by
  have fewer := @sentPasswords_length_le digests entry response.attributes
  by_cases none : (response.attributes.filter (·.attrType = tunnelPassword.asU8)).length = 0
  · have empty := List.length_eq_zero_iff.mp none
    refine ⟨response, [], by simp only [rekeyTunnelPasswords, if_pos none], ⟨?_, fewer.trans none.le, .nil⟩, rfl, rfl, fits,
      rfl, by simp⟩
    rw [empty, List.zipWith_nil_right]
  · have member (salt : Block 2) := @freshSalts_member base
      (response.attributes.filter (·.attrType = tunnelPassword.asU8)).length (saltsInUse response) salt
    have length := freshSalts_length base bound
    obtain ⟨rewritten, run, fitsRewritten, plain, tunnels⟩ := tunnelLoop_ok fits
      (fun salt present => (member salt present).1) (fewer.trans length.ge)
    refine ⟨{ response with attributes := rewritten }, _, ?_,
      ⟨tunnels, fewer.trans length.ge, ((generateSalts_nodup base bound).filter _).sublist (List.take_sublist _ _)⟩,
      rfl, rfl, fitsRewritten, plain, member⟩
    simp only [rekeyTunnelPasswords, if_neg none, run, Results.ok_bind]
    rfl

end Tunnel

end UsgRadius.Proxy
