import UsgRadius.Packet.Auth

namespace UsgRadius.Auth

open Data Attribute
open AttributeType (messageAuthenticator)

/-! Message-Authenticator: an HMAC over the whole packet with its own value
zeroed and the Request Authenticator in the header. -/

variable (digests : Digests)

def calculateMessageAuthenticator (packetBytes secret : Octets) : Block 16 :=
  digests.hmacMd5 secret packetBytes

/-- `octets[start..start + with.len()].copy_from_slice(with)`. -/
def overwrite (octets : Octets) (start : Nat) (replacement : Octets) : Octets :=
  octets.take start ++ replacement ++ octets.drop (start + replacement.length)

def verifyMessageAuthenticator (packetBytes secret : Octets) (messageAuthOffset : Nat) : Bool :=
  if messageAuthOffset + 16 > packetBytes.length then
    false
  else
    let receivedAuth := (packetBytes.drop messageAuthOffset).take 16
    let packetCopy := overwrite packetBytes messageAuthOffset (List.replicate 16 0)
    (digests.hmacMd5 secret packetCopy).octets == receivedAuth

inductive MessageAuthenticatorCheck where
  | absent
  | valid
  | invalid
deriving DecidableEq

/-- The attribute walk: the octet offset of the first Message-Authenticator
value and the number of them; `none` once one is not 16 octets long. -/
def locateMessageAuthenticator : List Attribute → Nat → Option Nat → Nat → Option (Option Nat × Nat)
  | [], _, found, count => some (found, count)
  | attr :: rest, offset, found, count =>
    let next := offset + (2 + attr.value.length)
    if attr.attrType = messageAuthenticator.asU8 then
      if attr.value.length ≠ 16 then
        none
      else
        locateMessageAuthenticator rest next (some (found.getD (offset + 2))) (count + 1)
    else
      locateMessageAuthenticator rest next found count

def checkMessageAuthenticator (packet : Packet) (authenticator : Block 16) (secret : Octets) :
    Except PacketError MessageAuthenticatorCheck :=
  match locateMessageAuthenticator packet.attributes 20 none 0 with
  | none => .ok .invalid
  | some (none, _) => .ok .absent
  | some (some offset, count) =>
    if count > 1 then
      .ok .invalid
    else do
      let packetBytes ← packet.encode
      let packetBytes := overwrite packetBytes 4 authenticator.octets
      if verifyMessageAuthenticator digests packetBytes secret offset then
        return .valid
      else
        return .invalid

section Walk

variable {attributes before after : List Attribute} {value : Octets}

/-- No attribute of the list is a Message-Authenticator. -/
def Unsigned (attributes : List Attribute) : Prop :=
  ∀ attr ∈ attributes, attr.attrType ≠ messageAuthenticator.asU8

theorem locate_unsigned (unsigned : Unsigned attributes) (rest : List Attribute) (offset : Nat)
    (found : Option Nat) (count : Nat) :
    locateMessageAuthenticator (attributes ++ rest) offset found count =
      locateMessageAuthenticator rest (offset + (attributes.flatMap bytes).length) found count := by
  induction attributes generalizing offset with
  | nil => simp
  | cons attr others ih =>
    obtain ⟨different, unsigned⟩ := List.forall_mem_cons.mp unsigned
    simp only [List.cons_append, locateMessageAuthenticator, if_neg different, ih unsigned,
      List.flatMap_cons, List.length_append, bytes_length, encodedLength,
      minLength]
    congr 1
    omega

theorem locate_signed (size : value.length = 16) (unsignedBefore : Unsigned before)
    (unsignedAfter : Unsigned after) (offset : Nat) :
    locateMessageAuthenticator
        (before ++ ⟨messageAuthenticator.asU8, value⟩ :: after) offset none 0 =
      some (some (offset + (before.flatMap bytes).length + 2), 1) := by
  have tail := locate_unsigned unsignedAfter []
  simp only [List.append_nil] at tail
  rw [locate_unsigned unsignedBefore]
  simp [locateMessageAuthenticator, size, tail]

end Walk

section Check

variable {digests} {packet : Packet} {before after : List Attribute} {value : Octets}

theorem overwrite_middle (front middle back replacement : Octets) (same : replacement.length = middle.length) :
    overwrite (front ++ (middle ++ back)) front.length replacement = front ++ (replacement ++ back) := by
  simp [overwrite, same, ← List.drop_drop]

/-- The packet as the sender hashed it: the Request Authenticator in the
header and the Message-Authenticator zeroed. -/
def macInput (packet : Packet) (authenticator : Block 16) (before after : List Attribute) : Packet :=
  { packet with
    authenticator
    attributes := before ++
      ⟨messageAuthenticator.asU8, List.replicate 16 0⟩ :: after }

theorem length_congr {left right : Packet}
    (same : (left.attributes.map encodedLength).sum = (right.attributes.map encodedLength).sum) :
    left.length = right.length := by
  rw [Packet.length, Packet.length, same]

private def macFront (packet : Packet) (before : List Attribute) : Octets :=
  packet.code.asU8 :: packet.identifier :: (toBe 2 packet.length ++ packet.authenticator.octets ++
    before.flatMap bytes ++ [messageAuthenticator.asU8, 18])

private theorem bytes_split (size : value.length = 16)
    (split : packet.attributes = before ++ ⟨messageAuthenticator.asU8, value⟩ :: after) :
    packet.bytes = macFront packet before ++ (value ++ after.flatMap bytes) := by
  have own : bytes ⟨messageAuthenticator.asU8, value⟩ =
      messageAuthenticator.asU8 :: 18 :: value := by
    simp only [bytes, encodedLength, size, minLength]
    rfl
  simp [Packet.bytes, macFront, split, own]

private theorem macFront_length (packet : Packet) (before : List Attribute) :
    (macFront packet before).length = 20 + (before.flatMap bytes).length + 2 := by
  simp only [macFront, List.length_cons, List.length_append, toBe_length, Block.size, List.length_nil]
  omega

theorem overwrite_authenticator (packet : Packet) (authenticator : Block 16) :
    overwrite packet.bytes 4 authenticator.octets = { packet with authenticator }.bytes := by
  have replaced := overwrite_middle
    (packet.code.asU8 :: packet.identifier :: toBe 2 packet.length) packet.authenticator.octets
    (packet.attributes.flatMap bytes) authenticator.octets (by simp)
  simpa [Packet.bytes, Packet.length] using replaced

/-- On a packet with exactly one Message-Authenticator the check compares it
with the HMAC of `macInput`. -/
theorem check_signed (authenticator : Block 16) (secret : Octets) (encodable : packet.Encodable)
    (size : value.length = 16) (unsignedBefore : Unsigned before) (unsignedAfter : Unsigned after)
    (split : packet.attributes = before ++ ⟨messageAuthenticator.asU8, value⟩ :: after) :
    checkMessageAuthenticator digests packet authenticator secret =
      .ok (if value = (digests.hmacMd5 secret (macInput packet authenticator before after).bytes).octets
        then .valid else .invalid) := by
  have located : locateMessageAuthenticator packet.attributes 20 none 0 =
      some (some (macFront { packet with authenticator } before).length, 1) := by
    rw [split, locate_signed size unsignedBefore unsignedAfter, macFront_length]
  have encoded : packet.encode = .ok packet.bytes := Packet.encode_eq_ok.mpr ⟨encodable, rfl⟩
  have sent : { packet with authenticator }.bytes =
      macFront { packet with authenticator } before ++ (value ++ after.flatMap bytes) :=
    bytes_split size split
  have hashed : (macInput packet authenticator before after).bytes =
      macFront { packet with authenticator } before ++
        (List.replicate 16 0 ++ after.flatMap bytes) := by
    rw [bytes_split (List.length_replicate) rfl]
    have length : (macInput packet authenticator before after).length = packet.length :=
      length_congr (by simp [macInput, split, encodedLength, size])
    simp only [macFront, length]
    simp [macInput, Packet.length]
  have within : ¬ (macFront { packet with authenticator } before).length + 16 >
      { packet with authenticator }.bytes.length := by
    rw [sent]
    simp only [List.length_append, size]
    omega
  have received : ({ packet with authenticator }.bytes.drop
      (macFront { packet with authenticator } before).length).take 16 = value := by
    rw [sent, List.drop_left, List.take_left' size]
  have zeroed : overwrite { packet with authenticator }.bytes
      (macFront { packet with authenticator } before).length (List.replicate 16 0) =
        (macInput packet authenticator before after).bytes := by
    rw [sent, overwrite_middle _ _ _ _ (by simp [size]), hashed]
  simp only [checkMessageAuthenticator, located, encoded, Results.ok_bind, overwrite_authenticator,
    verifyMessageAuthenticator, within, if_false, received, zeroed, beq_iff_eq, gt_iff_lt, Nat.lt_irrefl]
  simp only [@eq_comm _ value]
  split <;> rfl

end Check

end UsgRadius.Auth
