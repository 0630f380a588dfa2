import UsgRadius.Packet.MessageAuthenticator
import UsgRadius.Packet.Salted
import UsgRadius.Proxy.Entry
import UsgRadius.Data.Views

namespace UsgRadius.Proxy

open Data Auth
open AttributeType (messageAuthenticator eapMessage)

variable (digests : Digests)

/-! Re-keying of a packet for the next hop. The Request Authenticator stays the
NAS's on both hops; only the shared secret changes. -/

/-- `iter_mut().find(|a| a.attr_type == attr_type)` followed by an assignment to
the value. -/
def setFirst (attrType : UInt8) (value : Octets) : List Attribute → List Attribute
  | [] => []
  | attr :: rest =>
    if attr.attrType = attrType then
      { attr with value } :: rest
    else
      attr :: setFirst attrType value rest

def hasAttribute (attrType : UInt8) (attributes : List Attribute) : Bool :=
  attributes.any (·.attrType = attrType)

def zeroMessageAuthenticators (attributes : List Attribute) : List Attribute :=
  attributes.map fun attr =>
    if attr.attrType = messageAuthenticator.asU8 then
      { attr with value := List.replicate 16 0 }
    else
      attr

/-- The second half of `recompute_message_authenticator`: zero, encode under the
Request Authenticator, hash and fill in. -/
def signMessageAuthenticator (packet : Packet) (requestAuthenticator : Block 16) (secret : Octets) :
    Except ProxyError Packet := do
  let zeroed := { packet with attributes := zeroMessageAuthenticators packet.attributes }
  let packetBytes ← liftPacket { zeroed with authenticator := requestAuthenticator }.encode
  let mac := calculateMessageAuthenticator digests packetBytes secret
  return { zeroed with
    attributes := setFirst messageAuthenticator.asU8 mac.octets zeroed.attributes }

def recomputeMessageAuthenticator (packet : Packet) (requestAuthenticator : Block 16) (secret : Octets) :
    Except ProxyError Packet :=
  let hasMa := hasAttribute messageAuthenticator.asU8 packet.attributes
  let hasEap := hasAttribute eapMessage.asU8 packet.attributes
  if !hasMa && !hasEap then
    .ok packet
  else if !hasMa then do
    let attr ← liftPacket
      (Attribute.new messageAuthenticator.asU8 (List.replicate 16 0))
    signMessageAuthenticator digests (packet.addAttribute attr) requestAuthenticator secret
  else
    signMessageAuthenticator digests packet requestAuthenticator secret

section Resigning

variable {digests} {packet result : Packet} {requestAuthenticator : Block 16} {secret : Octets}
  {attributes before after left right : List Attribute} {value : Octets} {View : Type} {view : Attribute → List View}

def signatures (attributes : List Attribute) : Nat :=
  (attributes.filter (·.attrType = messageAuthenticator.asU8)).length

theorem signatures_of_types (types : left.map Attribute.attrType = right.map Attribute.attrType) :
    signatures left = signatures right := by
  have counted (attributes : List Attribute) : signatures attributes =
      ((attributes.map Attribute.attrType).filter (· = messageAuthenticator.asU8)).length := by
    rw [List.filter_map, List.length_map]
    rfl
  rw [counted, counted, types]

theorem hasAttribute_of_types (attrType : UInt8) (types : left.map Attribute.attrType = right.map Attribute.attrType) :
    hasAttribute attrType left = hasAttribute attrType right := by
  have mapped (attributes : List Attribute) : hasAttribute attrType attributes =
      (attributes.map Attribute.attrType).any (· = attrType) := by
    simp only [hasAttribute, List.any_map]
    rfl
  rw [mapped, mapped, types]

theorem unsigned_iff : Unsigned attributes ↔
    hasAttribute messageAuthenticator.asU8 attributes = false := by
  simp [Unsigned, hasAttribute]

theorem unsigned_of_filter_nil (none : attributes.filter (·.attrType = messageAuthenticator.asU8) = []) :
    Unsigned attributes := by
  intro attr member
  simpa using List.filter_eq_nil_iff.mp none attr member

theorem split_at_signature (present : hasAttribute messageAuthenticator.asU8 attributes = true)
    (single : signatures attributes ≤ 1) :
    ∃ before value after, attributes = before ++ ⟨messageAuthenticator.asU8, value⟩ :: after ∧
      Unsigned before ∧ Unsigned after := by
  obtain ⟨⟨attrType, value⟩, member, isMa⟩ := List.any_eq_true.mp present
  obtain rfl : attrType = messageAuthenticator.asU8 := by simpa using isMa
  obtain ⟨before, after, rfl⟩ := List.append_of_mem member
  simp only [signatures, List.filter_append, List.filter_cons, decide_true, if_true,
    List.length_append, List.length_cons] at single
  refine ⟨before, value, after, rfl, ?_, ?_⟩
  · exact unsigned_of_filter_nil (List.length_eq_zero_iff.mp (by omega))
  · exact unsigned_of_filter_nil (List.length_eq_zero_iff.mp (by omega))

theorem zero_unsigned_append (unsigned : Unsigned attributes) (rest : List Attribute) :
    zeroMessageAuthenticators (attributes ++ rest) = attributes ++ zeroMessageAuthenticators rest := by
  induction attributes with
  | nil => rfl
  | cons attr others ih =>
    obtain ⟨different, unsigned⟩ := List.forall_mem_cons.mp unsigned
    have tail := ih unsigned
    simp only [zeroMessageAuthenticators, List.cons_append, List.map_cons, if_neg different] at tail ⊢
    rw [tail]

theorem zero_signed (unsignedBefore : Unsigned before) (unsignedAfter : Unsigned after) :
    zeroMessageAuthenticators
        (before ++ ⟨messageAuthenticator.asU8, value⟩ :: after) =
      before ++ ⟨messageAuthenticator.asU8, List.replicate 16 0⟩ :: after := by
  have tail := zero_unsigned_append unsignedAfter []
  rw [zero_unsigned_append unsignedBefore]
  simp only [List.append_nil, zeroMessageAuthenticators, List.map_nil, List.map_cons, if_true] at tail ⊢
  rw [tail]

theorem setFirst_signed {old : Octets} (unsignedBefore : Unsigned before) :
    setFirst messageAuthenticator.asU8 value
        (before ++ ⟨messageAuthenticator.asU8, old⟩ :: after) =
      before ++ ⟨messageAuthenticator.asU8, value⟩ :: after := by
  induction before with
  | nil => simp [setFirst]
  | cons attr rest ih =>
    obtain ⟨different, others⟩ := List.forall_mem_cons.mp unsignedBefore
    simp [setFirst, different, ih others]

theorem recompute_untouched (unsigned : hasAttribute messageAuthenticator.asU8 packet.attributes = false)
    (noEap : hasAttribute eapMessage.asU8 packet.attributes = false) :
    recomputeMessageAuthenticator digests packet requestAuthenticator secret = .ok packet := by
  simp [recomputeMessageAuthenticator, unsigned, noEap]

/-- The packet with its Message-Authenticator value between `before` and
`after` computed for the hop with `secret`. -/
def resigned (digests : Digests) (packet : Packet) (requestAuthenticator : Block 16) (secret : Octets)
    (before after : List Attribute) : Packet :=
  { packet with
    attributes := before ++ ⟨messageAuthenticator.asU8,
      (digests.hmacMd5 secret (macInput packet requestAuthenticator before after).bytes).octets⟩ :: after }

theorem sign_eq_ok (unsignedBefore : Unsigned before) (unsignedAfter : Unsigned after)
    (split : packet.attributes = before ++ ⟨messageAuthenticator.asU8, value⟩ :: after) :
    signMessageAuthenticator digests packet requestAuthenticator secret = .ok result ↔
      (macInput packet requestAuthenticator before after).Encodable ∧
      result = resigned digests packet requestAuthenticator secret before after := by
  simp only [signMessageAuthenticator, Results.bind_eq_ok, liftPacket_eq_ok, split,
    zero_signed unsignedBefore unsignedAfter, setFirst_signed unsignedBefore, Packet.encode_eq_ok]
  constructor
  · rintro ⟨packetBytes, ⟨encodable, encoded⟩, assembled⟩
    subst packetBytes
    cases assembled
    exact ⟨encodable, rfl⟩
  · rintro ⟨encodable, assembled⟩
    subst result
    exact ⟨_, ⟨encodable, rfl⟩, rfl⟩

/-- Where there is a Message-Authenticator to compute, it ends up over the
packet as sent; a missing one is added at the end. -/
theorem recompute_resigns (single : signatures packet.attributes ≤ 1)
    (needed : hasAttribute messageAuthenticator.asU8 packet.attributes = true ∨
      hasAttribute eapMessage.asU8 packet.attributes = true)
    (recomputed : recomputeMessageAuthenticator digests packet requestAuthenticator secret = .ok result) :
    ∃ before after, Unsigned before ∧ Unsigned after ∧
      (macInput packet requestAuthenticator before after).Encodable ∧
      result = resigned digests packet requestAuthenticator secret before after := by
  cases present : hasAttribute messageAuthenticator.asU8 packet.attributes with
  | true =>
    obtain ⟨before, value, after, split, unsignedBefore, unsignedAfter⟩ :=
      split_at_signature present single
    simp only [recomputeMessageAuthenticator, present, Bool.not_true, Bool.false_and,
      Bool.false_eq_true, if_false, sign_eq_ok unsignedBefore unsignedAfter split] at recomputed
    exact ⟨before, after, unsignedBefore, unsignedAfter, recomputed⟩
  | false =>
    have unsigned := unsigned_iff.mpr present
    have nothing : Unsigned [] := by simp [Unsigned]
    have hasEap : hasAttribute eapMessage.asU8 packet.attributes = true := by
      simpa [present] using needed
    have accepted : liftPacket (Attribute.new messageAuthenticator.asU8 (List.replicate 16 0)) =
        .ok ⟨messageAuthenticator.asU8, List.replicate 16 0⟩ := rfl
    simp only [recomputeMessageAuthenticator, present, hasEap, Bool.not_true, Bool.and_false, Bool.not_false,
      Bool.false_eq_true, if_false, if_true, accepted, Results.ok_bind] at recomputed
    rw [sign_eq_ok unsigned nothing rfl] at recomputed
    exact ⟨packet.attributes, [], unsigned, nothing, recomputed⟩

/-- All that a new Message-Authenticator leaves as it was: what is read off the
other attributes is the same before and after. -/
structure Refreshed (packet result : Packet) : Prop where
  code : result.code = packet.code
  identifier : result.identifier = packet.identifier
  authenticator : result.authenticator = packet.authenticator
  flatMap : ∀ {View : Type} (view : Attribute → List View),
    (∀ value, view ⟨messageAuthenticator.asU8, value⟩ = []) →
      result.attributes.flatMap view = packet.attributes.flatMap view
  fits : (∀ attr ∈ packet.attributes, attr.Fits) → ∀ attr ∈ result.attributes, attr.Fits

theorem Refreshed.filterMap (refreshed : Refreshed packet result) {View : Type} (view : Attribute → Option View)
    (blind : ∀ value, view ⟨messageAuthenticator.asU8, value⟩ = none) :
    result.attributes.filterMap view = packet.attributes.filterMap view := by
  rw [List.filterMap_eq_flatMap_toList, List.filterMap_eq_flatMap_toList]
  exact refreshed.flatMap _ fun value => by rw [blind value]; rfl

theorem zero_flatMap (blind : ∀ value, view ⟨messageAuthenticator.asU8, value⟩ = [])
    (attributes : List Attribute) : (zeroMessageAuthenticators attributes).flatMap view = attributes.flatMap view := by
  rw [zeroMessageAuthenticators, List.flatMap_map]
  refine List.flatMap_congr fun attr _ => ?_
  obtain ⟨attrType, value⟩ := attr
  grind

theorem setFirst_flatMap (blind : ∀ value, view ⟨messageAuthenticator.asU8, value⟩ = [])
    (attributes : List Attribute) :
    (setFirst messageAuthenticator.asU8 value attributes).flatMap view = attributes.flatMap view := by
  induction attributes with
  | nil => rfl
  | cons attr rest ih =>
    obtain ⟨attrType, old⟩ := attr
    grind [setFirst]

theorem zero_fits (fits : ∀ attr ∈ attributes, attr.Fits) :
    ∀ attr ∈ zeroMessageAuthenticators attributes, attr.Fits := by
  grind [zeroMessageAuthenticators, Attribute.Fits, Attribute.maxValueLength]

theorem setFirst_fits {attrType : UInt8} (small : value.length ≤ Attribute.maxValueLength)
    (fits : ∀ attr ∈ attributes, attr.Fits) : ∀ attr ∈ setFirst attrType value attributes, attr.Fits := by
  induction attributes with
  | nil => exact fits
  | cons attr rest ih => grind [setFirst, Attribute.Fits]

theorem sign_refreshed (signed : signMessageAuthenticator digests packet requestAuthenticator secret = .ok result) :
    Refreshed packet result := by
  simp only [signMessageAuthenticator, Results.bind_eq_ok] at signed
  obtain ⟨_, _, assembled⟩ := signed
  cases assembled
  refine ⟨rfl, rfl, rfl, fun view blind => (setFirst_flatMap blind _).trans (zero_flatMap blind _), fun fits => ?_⟩
  exact setFirst_fits (by rw [Block.size]; decide) (zero_fits fits)

theorem recompute_refreshed
    (recomputed : recomputeMessageAuthenticator digests packet requestAuthenticator secret = .ok result) :
    Refreshed packet result := by
  unfold recomputeMessageAuthenticator at recomputed
  dsimp only at recomputed
  split at recomputed
  next =>
    cases recomputed
    exact ⟨rfl, rfl, rfl, fun _ _ => rfl, id⟩
  next =>
    split at recomputed
    next =>
      obtain ⟨attr, created, added⟩ := Results.bind_eq_ok.mp recomputed
      obtain ⟨small, rfl⟩ := Attribute.new_eq_ok.mp (liftPacket_eq_ok.mp created)
      obtain ⟨code, identifier, authenticator, flatMap, fits⟩ := sign_refreshed added
      refine ⟨code, identifier, authenticator, fun view blind => ?_, fun others => fits ?_⟩
      · rw [flatMap view blind, Packet.addAttribute, List.flatMap_append, List.flatMap_singleton, blind, List.append_nil]
      · exact List.forall_mem_append.mpr ⟨others, List.forall_mem_singleton.mpr small⟩
    next => exact sign_refreshed recomputed

theorem check_resigned (unsignedBefore : Unsigned before) (unsignedAfter : Unsigned after)
    (encodable : (macInput packet requestAuthenticator before after).Encodable) (own : Block 16) :
    checkMessageAuthenticator digests
      { resigned digests packet requestAuthenticator secret before after with authenticator := own }
      requestAuthenticator secret = .ok .valid := by
  have size : (digests.hmacMd5 secret
      (macInput packet requestAuthenticator before after).bytes).octets.length = 16 := Block.size _
  rw [check_signed requestAuthenticator secret ?_ size unsignedBefore unsignedAfter rfl]
  · rw [if_pos]
    rfl
  · obtain ⟨fits, small⟩ := encodable
    refine ⟨?_, ?_⟩
    · intro attr member
      simp only [resigned, macInput, List.mem_append, List.mem_cons] at member fits
      rcases member with early | rfl | late
      · exact fits attr (.inl early)
      · simp [Attribute.Fits, Attribute.maxValueLength]
      · exact fits attr (.inr (.inr late))
    · refine (Nat.le_of_eq ?_).trans small
      apply length_congr
      simp [resigned, macInput, Attribute.encodedLength]

end Resigning

/-- The User-Password loop: it stops at the first password that does not
decrypt under the client secret. -/
def rekeyUserPasswords (requestAuthenticator : Block 16) (clientSecret homeSecret : Octets) :
    List Attribute → Except ProxyError (List Attribute)
  | [] => .ok []
  | attr :: rest =>
    if attr.attrType = AttributeType.userPassword.asU8 then
      match decryptUserPassword digests attr.value clientSecret requestAuthenticator with
      | .error reason => .error (.invalidUserPassword reason)
      | .ok password => do
        let rekeyed ← rekeyUserPasswords requestAuthenticator clientSecret homeSecret rest
        return { attr with
          value := encryptUserPassword digests password homeSecret requestAuthenticator } :: rekeyed
    else do
      let rekeyed ← rekeyUserPasswords requestAuthenticator clientSecret homeSecret rest
      return attr :: rekeyed

def rewriteRequestForHomeServer (request : Packet) (proxyState : ProxyStateKey)
    (clientSecret homeSecret : Octets) : Except ProxyError Packet := do
  let request ←
    match Attribute.new AttributeType.proxyState.asU8 proxyState.octets with
    | .ok attr => .ok (request.addAttribute attr)
    | .error reason =>
      .error (.configuration s!"Failed to create Proxy-State attribute: {reason.message}")
  let requestAuthenticator := request.authenticator
  let attributes ← rekeyUserPasswords digests requestAuthenticator clientSecret homeSecret request.attributes
  recomputeMessageAuthenticator digests { request with attributes } requestAuthenticator homeSecret

def isMppeKey (sub : VendorSpecific) : Bool :=
  sub.vendorId == Mppe.microsoftVendorId &&
    (sub.vendorType == Mppe.msMppeSendKey || sub.vendorType == Mppe.msMppeRecvKey)

/-- One round of the loop of `strip_mppe_attributes`: what is pushed for one
attribute. -/
def stripMppeAttribute (attr : Attribute) : Option Attribute :=
  if attr.attrType ≠ AttributeType.vendorSpecific.asU8 then
    some attr
  else
    match VendorSpecific.fromAttribute attr with
    | .error _ => some attr
    | .ok subs =>
      if subs.any isMppeKey then
        let remaining := subs.filter (!isMppeKey ·)
        if remaining = [] then
          none
        else
          match VendorSpecific.toAttributeCombined remaining with
          | .ok combined => some combined
          | .error _ => some attr
      else
        some attr

def stripMppeAttributes (response : Packet) : Packet :=
  { response with attributes := response.attributes.filterMap stripMppeAttribute }

/-- `rekey_mppe_attributes`, with the random salt base `to_attributes` draws. -/
def rekeyMppeAttributes (response : Packet) (entry : ProxyCacheEntry) (base : UInt16) : Packet :=
  let requestAuthenticator := entry.originalRequest.authenticator
  match MppeKeys.fromPacket digests response entry.homeServer.secret requestAuthenticator with
  | .ok none => response
  | .error _ => stripMppeAttributes response
  | .ok (some keys) =>
    let stripped := stripMppeAttributes response
    match keys.toAttributes digests entry.clientSecret requestAuthenticator base with
    | .ok attrs => attrs.foldl Packet.addAttribute stripped
    | .error _ => stripped

/-- `fresh_salts`, with the random base `generate_salts` draws. -/
def freshSalts (base : UInt16) (count : Nat) (inUse : List Octets) : List (Block 2) :=
  ((Salted.generateSalts base (count + inUse.length)).filter (·.octets ∉ inUse)).take count

/-- The attribute loop of `rekey_tunnel_passwords`, with the salt iterator. -/
def rekeyTunnelPasswordLoop (entry : ProxyCacheEntry) :
    List Attribute → List (Block 2) → Except Panic (List Attribute)
  | [], _ => .ok []
  | attr :: rest, salts =>
    let requestAuthenticator := entry.originalRequest.authenticator
    if attr.attrType ≠ AttributeType.tunnelPassword.asU8 then do
      let rewritten ← rekeyTunnelPasswordLoop entry rest salts
      return attr :: rewritten
    else
      match TunnelPassword.fromAttribute digests attr entry.homeServer.secret requestAuthenticator with
      | .error _ => rekeyTunnelPasswordLoop entry rest salts
      | .ok password =>
        match salts with
        | [] => .error ⟨"one fresh salt per Tunnel-Password"⟩
        | salt :: salts =>
          match password.toAttributeWithSalt digests entry.clientSecret requestAuthenticator salt with
          | .error _ => rekeyTunnelPasswordLoop entry rest salts
          | .ok rekeyed => do
            let rewritten ← rekeyTunnelPasswordLoop entry rest salts
            return rekeyed :: rewritten

def saltsInUse (response : Packet) : List Octets :=
  (response.findVendorAttributes Mppe.microsoftVendorId Mppe.msMppeSendKey ++
    response.findVendorAttributes Mppe.microsoftVendorId Mppe.msMppeRecvKey).filterMap fun sub =>
      if 2 ≤ sub.value.length then some (sub.value.take 2) else none

def rekeyTunnelPasswords (response : Packet) (entry : ProxyCacheEntry) (base : UInt16) :
    Except Panic Packet :=
  let count := (response.attributes.filter (·.attrType = AttributeType.tunnelPassword.asU8)).length
  if count = 0 then
    .ok response
  else do
    let salts := freshSalts base count (saltsInUse response)
    let attributes ← rekeyTunnelPasswordLoop digests entry response.attributes salts
    return { response with attributes }

def withoutProxyState (response : Packet) (entry : ProxyCacheEntry) : Packet :=
  { response with
    attributes := response.attributes.filter fun attr =>
      !(attr.attrType = AttributeType.proxyState.asU8 && attr.value = entry.proxyState.octets) }

/-- The random salt bases one rewriting draws. -/
structure SaltDraw where
  mppe : UInt16
  tunnel : UInt16

def rewriteResponseForNas (response : Packet) (entry : ProxyCacheEntry) (draw : SaltDraw) :
    Except Fault Packet := do
  let requestAuthenticator := entry.originalRequest.authenticator
  let verified ← liftPanic
    (verifyResponseAuthenticator digests response requestAuthenticator entry.homeServer.secret)
  if !verified then
    throw (.error .invalidResponseAuthenticator)
  else do
    let response := withoutProxyState response entry
    let response := rekeyMppeAttributes digests response entry draw.mppe
    let response ← liftPanic (rekeyTunnelPasswords digests response entry draw.tunnel)
    let response ← liftError
      (recomputeMessageAuthenticator digests response requestAuthenticator entry.clientSecret)
    let authenticator ← liftPanic
      (calculateResponseAuthenticator digests response requestAuthenticator entry.clientSecret)
    return { response with authenticator }

end UsgRadius.Proxy
