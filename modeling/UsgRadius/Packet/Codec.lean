import UsgRadius.Packet.Attribute

namespace UsgRadius

open Data

inductive Code where
  | accessRequest
  | accessAccept
  | accessReject
  | accountingRequest
  | accountingResponse
  | accessChallenge
  | statusServer
  | statusClient
  | disconnectRequest
  | disconnectAck
  | disconnectNak
  | coaRequest
  | coaAck
  | coaNak
deriving DecidableEq

namespace Code

def fromU8 : UInt8 → Option Code
  | 1 => some accessRequest
  | 2 => some accessAccept
  | 3 => some accessReject
  | 4 => some accountingRequest
  | 5 => some accountingResponse
  | 11 => some accessChallenge
  | 12 => some statusServer
  | 13 => some statusClient
  | 40 => some disconnectRequest
  | 41 => some disconnectAck
  | 42 => some disconnectNak
  | 43 => some coaRequest
  | 44 => some coaAck
  | 45 => some coaNak
  | _ => none

def asU8 : Code → UInt8
  | accessRequest => 1
  | accessAccept => 2
  | accessReject => 3
  | accountingRequest => 4
  | accountingResponse => 5
  | accessChallenge => 11
  | statusServer => 12
  | statusClient => 13
  | disconnectRequest => 40
  | disconnectAck => 41
  | disconnectNak => 42
  | coaRequest => 43
  | coaAck => 44
  | coaNak => 45

@[simp] theorem fromU8_asU8 (code : Code) : fromU8 code.asU8 = some code := by
  cases code <;> rfl

theorem fromU8_eq_some {octet : UInt8} {code : Code} : fromU8 octet = some code ↔ octet = code.asU8 := by
  constructor
  · intro known
    unfold fromU8 at known
    split at known <;> cases known <;> rfl
  · rintro rfl
    exact fromU8_asU8 code

end Code

structure Packet where
  code : Code
  identifier : UInt8
  authenticator : Block 16
  attributes : List Attribute
deriving DecidableEq

namespace Packet

variable {octets data : Octets} {packet : Packet}

def minPacketSize : Nat := 20
def maxPacketSize : Nat := 4096

def new (code : Code) (identifier : UInt8) (authenticator : Block 16) : Packet :=
  { code, identifier, authenticator, attributes := [] }

def addAttribute (packet : Packet) (attr : Attribute) : Packet :=
  { packet with attributes := packet.attributes ++ [attr] }

/-- The attribute loop of `encode`: it stops at the first attribute that does
not encode. -/
def encodeAttributes : List Attribute → Except PacketError Octets
  | [] => .ok []
  | attr :: rest => do
    let attrBytes ← attr.encode
    let restBytes ← encodeAttributes rest
    return attrBytes ++ restBytes

def encode (packet : Packet) : Except PacketError Octets := do
  let attributes ← encodeAttributes packet.attributes
  let buffer := [packet.code.asU8, packet.identifier, 0, 0] ++ packet.authenticator.octets ++ attributes
  let totalLength := buffer.length
  if totalLength > maxPacketSize then
    throw (.packetTooLarge totalLength)
  else
    return (buffer.set 2 (UInt8.ofNat (totalLength >>> 8))).set 3 (UInt8.ofNat (totalLength &&& 0xff))

/-- The Length field: octets 2 and 3, most significant first. -/
def lengthField (data : Octets) : Nat :=
  fromBe [data.getD 2 0, data.getD 3 0]

def decode (data : Octets) : Except PacketError Packet :=
  if short : data.length < minPacketSize then
    .error (.invalidLength data.length)
  else
    match Code.fromU8 (data.getD 0 0) with
    | none => .error (.invalidCode (data.getD 0 0))
    | some code =>
      let identifier := data.getD 1 0
      let length := lengthField data
      if ¬ (minPacketSize ≤ length ∧ length ≤ maxPacketSize) then
        .error (.invalidLength length)
      else if data.length < length then
        .error (.invalidLength data.length)
      else do
        let authenticator : Block 16 := ⟨(data.drop 4).take 16, by
          simp only [List.length_take, List.length_drop, minPacketSize] at short ⊢
          omega⟩
        let attributes ← Framing.parse Attribute.decode Attribute.encodedLength
          ((data.take length).drop minPacketSize)
        return { code, identifier, authenticator, attributes }

def length (packet : Packet) : Nat :=
  minPacketSize + (packet.attributes.map Attribute.encodedLength).sum

def findAttribute (packet : Packet) (attrType : UInt8) : Option Attribute :=
  packet.attributes.find? (·.attrType = attrType)

def findAllAttributes (packet : Packet) (attrType : UInt8) : List Attribute :=
  packet.attributes.filter (·.attrType = attrType)

def bytes (packet : Packet) : Octets :=
  packet.code.asU8 :: packet.identifier ::
    (toBe 2 packet.length ++ packet.authenticator.octets ++ packet.attributes.flatMap Attribute.bytes)

/-- The packets that have a wire form: each value fits its length octet and
the whole fits the packet limit. -/
structure Encodable (packet : Packet) : Prop where
  fits : ∀ attr ∈ packet.attributes, attr.Fits
  small : packet.length ≤ maxPacketSize

instance (packet : Packet) : Decidable packet.Encodable :=
  decidable_of_iff ((∀ attr ∈ packet.attributes, attr.Fits) ∧ packet.length ≤ maxPacketSize)
    ⟨fun ⟨fits, small⟩ => ⟨fits, small⟩, fun ⟨fits, small⟩ => ⟨fits, small⟩⟩

theorem flatMap_bytes_length (attributes : List Attribute) :
    (attributes.flatMap Attribute.bytes).length = (attributes.map Attribute.encodedLength).sum := by
  simp [List.length_flatMap]

@[simp] theorem bytes_length (packet : Packet) : packet.bytes.length = packet.length := by
  simp only [bytes, List.length_cons, List.length_append, toBe_length, Block.size,
    flatMap_bytes_length, length, minPacketSize]
  omega

theorem encodeAttributes_eq_ok {attributes : List Attribute} :
    encodeAttributes attributes = .ok octets ↔
      (∀ attr ∈ attributes, attr.Fits) ∧ octets = attributes.flatMap Attribute.bytes := by
  induction attributes generalizing octets with
  | nil => simp [encodeAttributes, eq_comm]
  | cons attr rest ih =>
    simp only [encodeAttributes, Results.bind_eq_ok, Results.pure_eq, Except.ok.injEq,
      Attribute.encode_eq_ok, ih, List.forall_mem_cons, List.flatMap_cons]
    constructor
    · grind
    · grind

theorem encode_eq_ok : packet.encode = .ok octets ↔ packet.Encodable ∧ octets = packet.bytes := by
  have patched (attributes : Octets) (total : Nat) :
      (([packet.code.asU8, packet.identifier, 0, 0] ++ packet.authenticator.octets ++ attributes).set 2
        (UInt8.ofNat (total >>> 8))).set 3 (UInt8.ofNat (total &&& 0xff)) =
      packet.code.asU8 :: packet.identifier ::
        (toBe 2 total ++ packet.authenticator.octets ++ attributes) := by
    have low : UInt8.ofNat (total &&& 0xff) = UInt8.ofNat total := by
      apply UInt8.toNat_inj.mp
      have masked : total &&& 0xff = total % 256 := Nat.and_two_pow_sub_one_eq_mod total 8
      simp [masked]
    simp [toBe, low, Nat.shiftRight_eq_div_pow]
  have total (octets : Octets) (encoded : octets = packet.attributes.flatMap Attribute.bytes) :
      ([packet.code.asU8, packet.identifier, 0, 0] ++ packet.authenticator.octets ++ octets).length =
        packet.length := by
    simp only [encoded, List.length_append, List.length_cons, List.length_nil, Block.size,
      flatMap_bytes_length, length, minPacketSize]
  simp only [encode, Results.bind_eq_ok, encodeAttributes_eq_ok, patched]
  constructor
  · rintro ⟨attributes, ⟨fits, encoded⟩, wrote⟩
    rw [total attributes encoded] at wrote
    split at wrote
    · cases wrote
    · rename_i small
      cases wrote
      exact ⟨⟨fits, Nat.not_lt.mp small⟩, by rw [encoded]; rfl⟩
  · rintro ⟨⟨fits, small⟩, rfl⟩
    refine ⟨_, ⟨fits, rfl⟩, ?_⟩
    rw [total _ rfl, if_neg (Nat.not_lt.mpr small)]
    rfl

/-- Everything a successful `decode` has checked and read. -/
theorem decode_eq_ok_iff_fields :
    decode data = .ok packet ↔
      minPacketSize ≤ data.length ∧ Code.fromU8 (data.getD 0 0) = some packet.code ∧
      packet.identifier = data.getD 1 0 ∧
      (minPacketSize ≤ lengthField data ∧ lengthField data ≤ maxPacketSize) ∧
      lengthField data ≤ data.length ∧ packet.authenticator.octets = (data.drop 4).take 16 ∧
      Framing.parse Attribute.decode Attribute.encodedLength
        ((data.take (lengthField data)).drop minPacketSize) = .ok packet.attributes := by
  unfold decode
  split
  · rename_i short
    simp [Nat.not_le.mpr short]
  · rename_i long
    cases known : Code.fromU8 (data.getD 0 0) with
    | none => simp
    | some code =>
      simp only [Nat.not_lt.mp long, true_and]
      split
      · rename_i outside
        simp [outside]
      · rename_i inside
        split
        · rename_i cut
          simp [Nat.not_le.mpr cut]
        · rename_i whole
          simp only [Results.bind_eq_ok, Results.pure_eq, Except.ok.injEq, not_not.mp inside,
            Nat.not_lt.mp whole, true_and, Option.some.injEq]
          constructor
          · rintro ⟨attributes, parsed, rfl⟩
            exact ⟨rfl, rfl, rfl, parsed⟩
          · rintro ⟨sameCode, sameIdentifier, sameAuthenticator, parsed⟩
            refine ⟨_, parsed, ?_⟩
            cases packet
            simp_all [← Block.octets_inj]

theorem length_eq (packet : Packet) :
    packet.length = minPacketSize + (packet.attributes.flatMap Attribute.bytes).length := by
  rw [flatMap_bytes_length, length]

theorem attributes_length_le (packet : Packet) : 2 * packet.attributes.length ≤ packet.length := by
  have counted (attributes : List Attribute) :
      2 * attributes.length ≤ (attributes.map Attribute.encodedLength).sum := by
    induction attributes with
    | nil => simp
    | cons attr rest ih =>
      simp only [List.length_cons, List.map_cons, List.sum_cons, Attribute.encodedLength, Attribute.minLength]
      omega
  exact (counted packet.attributes).trans (Nat.le_add_left _ _)

theorem lengthField_bytes (small : packet.length ≤ maxPacketSize) (rest : Octets) :
    lengthField (packet.bytes ++ rest) = packet.length := by
  have field : lengthField (packet.bytes ++ rest) = fromBe (toBe 2 packet.length) := by
    simp [lengthField, bytes, toBe]
  rw [field, fromBe_toBe_of_lt]
  exact Nat.lt_of_le_of_lt small (by decide)

/-- The header octets of `data`, spelled out. -/
theorem header_split (header : minPacketSize ≤ data.length) :
    data = data.getD 0 0 :: data.getD 1 0 :: (toBe 2 (lengthField data) ++ (data.drop 4).take 16 ++
      data.drop minPacketSize) := by
  match data, header with
  | [], header | [_], header | [_, _], header | [_, _, _], header =>
    simp [minPacketSize] at header
  | code :: identifier :: high :: low :: rest, _ =>
    have field : toBe 2 (lengthField (code :: identifier :: high :: low :: rest)) = [high, low] :=
      toBe_fromBe [high, low]
    simp [field, minPacketSize]

theorem decode_eq_ok : decode data = .ok packet ↔ packet.Encodable ∧ packet.bytes <+: data := by
  rw [decode_eq_ok_iff_fields, Attribute.lawful.parse_eq_ok_iff]
  constructor
  · rintro ⟨header, known, sameIdentifier, ⟨lower, upper⟩, whole, sameAuthenticator, fits, tiled⟩
    have size : packet.length = lengthField data := by
      rw [length_eq, ← tiled, List.length_drop, List.length_take]
      omega
    have tail : data.drop minPacketSize =
        packet.attributes.flatMap Attribute.bytes ++ data.drop (lengthField data) := by
      rw [← tiled, List.drop_take]
      conv_lhs => rw [← List.take_append_drop (lengthField data - minPacketSize) (data.drop minPacketSize)]
      rw [List.drop_drop, Nat.add_sub_cancel' lower]
    refine ⟨⟨fits, size ▸ upper⟩, data.drop (lengthField data), ?_⟩
    conv_rhs => rw [header_split header]
    rw [tail, Code.fromU8_eq_some.mp known, ← sameIdentifier, ← sameAuthenticator, ← size]
    simp [bytes]
  · rintro ⟨⟨fits, small⟩, rest, rfl⟩
    have field := lengthField_bytes small rest
    have total : packet.length = minPacketSize + _ := packet.length_eq
    rw [field]
    refine ⟨?_, ?_, rfl, ⟨by omega, small⟩, by simp, ?_, fits, ?_⟩
    · simp only [List.length_append, bytes_length]
      omega
    · exact Code.fromU8_asU8 packet.code
    · simp [bytes, toBe]
    · rw [← bytes_length, List.take_left]
      simp [bytes, toBe, minPacketSize]

/-! ## Which octet strings are packets -/

/-- Octets cut exactly into attributes: a type octet, a length octet of at
least two that counts both, and the value. -/
inductive Tiled : Octets → Prop
  | nil : Tiled []
  | cons {attrType length : UInt8} {value rest : Octets} (counted : length.toNat = 2 + value.length)
      (tail : Tiled rest) : Tiled (attrType :: length :: (value ++ rest))

theorem tiled_iff :
    Tiled data ↔ ∃ attributes : List Attribute, (∀ attr ∈ attributes, attr.Fits) ∧
      data = attributes.flatMap Attribute.bytes := by
  constructor
  · intro tiled
    induction tiled with
    | nil => exact ⟨[], by simp⟩
    | @cons attrType length value rest counted tail ih =>
      obtain ⟨attributes, fits, rfl⟩ := ih
      have bound := UInt8.toNat_lt length
      have octet : UInt8.ofNat (2 + value.length) = length := by
        rw [← counted, UInt8.ofNat_toNat]
      refine ⟨⟨attrType, value⟩ :: attributes, List.forall_mem_cons.mpr ⟨?_, fits⟩, ?_⟩
      · simp only [Attribute.Fits, Attribute.maxValueLength]
        omega
      · simp [Attribute.bytes, Attribute.encodedLength, Attribute.minLength, octet]
  · rintro ⟨attributes, fits, rfl⟩
    induction attributes with
    | nil => exact .nil
    | cons attr rest ih =>
      obtain ⟨fit, others⟩ := List.forall_mem_cons.mp fits
      refine .cons ?_ (ih others)
      simp only [Attribute.Fits, Attribute.maxValueLength, Attribute.encodedLength,
        Attribute.minLength] at *
      simp only [UInt8.toNat_ofNat', Nat.reducePow]
      omega

/-- What RFC 2865 section 3 asks of the octets of a packet; octets after
Length are padding. -/
structure WellFormed (data : Octets) : Prop where
  header : 20 ≤ data.length
  code : (Code.fromU8 (data.getD 0 0)).isSome
  lower : 20 ≤ lengthField data
  upper : lengthField data ≤ 4096
  whole : lengthField data ≤ data.length
  tiled : Tiled ((data.take (lengthField data)).drop 20)

theorem decode_succeeds_iff : (∃ packet, decode data = .ok packet) ↔ WellFormed data := by
  simp only [decode_eq_ok_iff_fields, Attribute.lawful.parse_eq_ok_iff]
  constructor
  · rintro ⟨packet, header, known, _, ⟨lower, upper⟩, whole, _, fits, tiled⟩
    exact ⟨header, Option.isSome_iff_exists.mpr ⟨_, known⟩, lower, upper, whole, tiled_iff.mpr ⟨_, fits, tiled⟩⟩
  · rintro ⟨header, code, lower, upper, whole, tiled⟩
    obtain ⟨code, known⟩ := Option.isSome_iff_exists.mp code
    obtain ⟨attributes, fits, tiled⟩ := tiled_iff.mp tiled
    have size : ((data.drop 4).take 16).length = 16 := by
      simp only [List.length_take, List.length_drop]
      omega
    exact ⟨⟨code, data.getD 1 0, ⟨_, size⟩, attributes⟩, header, known, rfl, ⟨lower, upper⟩, whole, rfl,
      fits, tiled⟩

theorem encode_of_decode (decoded : decode data = .ok packet) : packet.encode = .ok (data.take (lengthField data)) := by
  obtain ⟨encodable, rest, rfl⟩ := decode_eq_ok.mp decoded
  rw [lengthField_bytes encodable.small, ← bytes_length, List.take_left]
  exact encode_eq_ok.mpr ⟨encodable, rfl⟩

theorem decode_of_encode (encoded : packet.encode = .ok octets) : decode octets = .ok packet := by
  obtain ⟨encodable, rfl⟩ := encode_eq_ok.mp encoded
  exact decode_eq_ok.mpr ⟨encodable, List.prefix_rfl⟩

theorem encode_fails (unencodable : ¬ packet.Encodable) : ∃ reason, packet.encode = .error reason := by
  cases encoded : packet.encode with
  | error reason => exact ⟨reason, rfl⟩
  | ok octets => exact absurd (encode_eq_ok.mp encoded).1 unencodable

/-- The codec law, both ways: which octets decode and what they encode back
to; which packets encode, and that they decode to themselves. -/
theorem codec_roundtrip (data : Octets) (packet : Packet) :
    ((∃ decoded, decode data = .ok decoded) ↔ WellFormed data) ∧
    (∀ decoded, decode data = .ok decoded → decoded.encode = .ok (data.take (lengthField data))) ∧
    ((∀ attr ∈ packet.attributes, attr.value.length ≤ 253) ∧ packet.length ≤ 4096 →
      ∃ octets, packet.encode = .ok octets ∧ decode octets = .ok packet) ∧
    (¬ ((∀ attr ∈ packet.attributes, attr.value.length ≤ 253) ∧ packet.length ≤ 4096) →
      ∃ reason, packet.encode = .error reason) := by
  refine ⟨decode_succeeds_iff, fun _ => encode_of_decode, ?_, ?_⟩
  · rintro ⟨fits, small⟩
    have encoded := encode_eq_ok.mpr ⟨⟨fits, small⟩, rfl⟩
    exact ⟨packet.bytes, encoded, decode_of_encode encoded⟩
  · intro outside
    exact encode_fails fun encodable => outside ⟨encodable.fits, encodable.small⟩

end Packet

end UsgRadius
