import UsgRadius.Data.Framing

namespace UsgRadius

open Data

inductive PacketError where
  | invalidLength (length : Nat)
  | invalidCode (code : UInt8)
  | attributeError (message : String)
  | packetTooLarge (length : Nat)
deriving DecidableEq

/-- The `Display` text of the error. -/
def PacketError.message : PacketError → String
  | .invalidLength length => s!"Invalid packet length: {length}"
  | .invalidCode code => s!"Invalid packet code: {code}"
  | .attributeError message => s!"Attribute error: {message}"
  | .packetTooLarge length => s!"Packet too large: {length} bytes"

/-- The attribute types the modelled functions look at. -/
inductive AttributeType where
  | userName
  | userPassword
  | chapPassword
  | nasIpAddress
  | nasPort
  | serviceType
  | framedProtocol
  | framedIpAddress
  | framedIpNetmask
  | framedRouting
  | filterId
  | framedMtu
  | framedCompression
  | loginIpHost
  | loginService
  | loginTcpPort
  | replyMessage
  | callbackNumber
  | callbackId
  | state
  | classAttribute
  | vendorSpecific
  | sessionTimeout
  | idleTimeout
  | terminationAction
  | calledStationId
  | callingStationId
  | nasIdentifier
  | proxyState
  | acctStatusType
  | acctInputOctets
  | acctOutputOctets
  | acctSessionId
  | acctSessionTime
  | acctInputGigawords
  | acctOutputGigawords
  | chapChallenge
  | nasPortType
  | tunnelPassword
  | eapMessage
  | messageAuthenticator
  | nasIpv6Address
  | eapKeyName
deriving DecidableEq

def AttributeType.asU8 : AttributeType → UInt8
  | .userName => 1
  | .userPassword => 2
  | .chapPassword => 3
  | .nasIpAddress => 4
  | .nasPort => 5
  | .serviceType => 6
  | .framedProtocol => 7
  | .framedIpAddress => 8
  | .framedIpNetmask => 9
  | .framedRouting => 10
  | .filterId => 11
  | .framedMtu => 12
  | .framedCompression => 13
  | .loginIpHost => 14
  | .loginService => 15
  | .loginTcpPort => 16
  | .replyMessage => 18
  | .callbackNumber => 19
  | .callbackId => 20
  | .state => 24
  | .classAttribute => 25
  | .vendorSpecific => 26
  | .sessionTimeout => 27
  | .idleTimeout => 28
  | .terminationAction => 29
  | .calledStationId => 30
  | .callingStationId => 31
  | .nasIdentifier => 32
  | .proxyState => 33
  | .acctStatusType => 40
  | .acctInputOctets => 42
  | .acctOutputOctets => 43
  | .acctSessionId => 44
  | .acctSessionTime => 46
  | .acctInputGigawords => 52
  | .acctOutputGigawords => 53
  | .chapChallenge => 60
  | .nasPortType => 61
  | .tunnelPassword => 69
  | .eapMessage => 79
  | .messageAuthenticator => 80
  | .nasIpv6Address => 95
  | .eapKeyName => 102

structure Attribute where
  attrType : UInt8
  value : Octets
deriving DecidableEq

namespace Attribute

variable {attr : Attribute}

def minLength : Nat := 2
def maxLength : Nat := 255
def maxValueLength : Nat := 253

def new (attrType : UInt8) (value : Octets) : Except PacketError Attribute :=
  if value.length > maxValueLength then
    .error (.attributeError
      s!"Attribute value too long: {value.length} bytes (max {maxValueLength})")
  else
    .ok { attrType, value }

def string (attrType : UInt8) (value : String) : Except PacketError Attribute :=
  new attrType (utf8 value)

/-- `value.to_be_bytes()`. -/
def integer (attrType : UInt8) (value : UInt32) : Except PacketError Attribute :=
  new attrType (toBe 4 value.toNat)

def encodedLength (attr : Attribute) : Nat :=
  minLength + attr.value.length

def encode (attr : Attribute) : Except PacketError Octets :=
  let length := attr.encodedLength
  if length > maxLength then
    .error (.attributeError s!"Encoded attribute too long: {length} bytes")
  else
    .ok (attr.attrType :: UInt8.ofNat length :: attr.value)

def decode (data : Octets) : Except PacketError Attribute :=
  if data.length < minLength then
    .error (.attributeError s!"Attribute data too short: {data.length} bytes")
  else
    let attrType := data.getD 0 0
    let length := (data.getD 1 0).toNat
    if ¬ (minLength ≤ length ∧ length ≤ maxLength) then
      .error (.attributeError s!"Invalid attribute length: {length}")
    else if data.length < length then
      .error (.attributeError
        s!"Insufficient data for attribute: expected {length}, got {data.length}")
    else
      .ok { attrType, value := (data.drop 2).take (length - minLength) }

def asString (attr : Attribute) : Option String :=
  fromUtf8 attr.value

/-- The wire form of an attribute whose length fits its length octet. -/
def bytes (attr : Attribute) : Octets :=
  attr.attrType :: UInt8.ofNat attr.encodedLength :: attr.value

@[simp] theorem bytes_length (attr : Attribute) : attr.bytes.length = attr.encodedLength := by
  simp only [bytes, encodedLength, minLength, List.length_cons]
  omega

def Fits (attr : Attribute) : Prop :=
  attr.value.length ≤ maxValueLength

instance (attr : Attribute) : Decidable attr.Fits :=
  inferInstanceAs (Decidable (_ ≤ _))

theorem encode_of_fits (fits : attr.Fits) : attr.encode = .ok attr.bytes := by
  have small : ¬ attr.encodedLength > maxLength := by
    simp only [Fits, maxValueLength, encodedLength, minLength, maxLength] at *
    omega
  simp [encode, small, bytes]

theorem encode_of_not_fits (long : ¬ attr.Fits) :
    attr.encode = .error (.attributeError
      s!"Encoded attribute too long: {attr.encodedLength} bytes") := by
  have large : attr.encodedLength > maxLength := by
    simp only [Fits, maxValueLength, encodedLength, minLength, maxLength] at *
    omega
  simp [encode, large]

theorem encode_eq_ok {octets : Octets} : attr.encode = .ok octets ↔ attr.Fits ∧ octets = attr.bytes := by
  by_cases fits : attr.Fits
  · simp [encode_of_fits fits, fits, eq_comm]
  · simp [encode_of_not_fits fits, fits]

theorem new_eq_ok {attrType : UInt8} {value : Octets} :
    new attrType value = .ok attr ↔
      value.length ≤ maxValueLength ∧ attr = { attrType, value } := by
  unfold new
  split
  · rename_i long
    simp [Nat.not_le.mpr long]
  · rename_i short
    simp [Nat.not_lt.mp short, eq_comm]

theorem decode_sound {data : Octets} (decoded : decode data = .ok attr) : attr.Fits ∧ attr.bytes <+: data := by
  match data, decoded with
  | [], decoded => simp [decode, minLength] at decoded
  | [_], decoded => simp [decode, minLength] at decoded
  | attrType :: length :: rest, decoded =>
    simp only [decode, List.getD_cons_zero, List.getD_cons_succ, List.drop_succ_cons,
      List.drop_zero] at decoded
    split at decoded
    · cases decoded
    · split at decoded
      · cases decoded
      · rename_i inRange
        split at decoded
        · cases decoded
        · rename_i covered
          cases decoded
          have bound := UInt8.toNat_lt length
          simp only [minLength, maxLength, List.length_cons] at inRange covered
          have size : (rest.take (length.toNat - 2)).length = length.toNat - 2 := by
            simp only [List.length_take]
            omega
          have lengthOctet : UInt8.ofNat (2 + (length.toNat - 2)) = length := by
            apply UInt8.toNat_inj.mp
            simp only [UInt8.toNat_ofNat', Nat.reducePow]
            omega
          refine ⟨?_, rest.drop (length.toNat - 2), ?_⟩
          · simp only [Fits, maxValueLength, minLength, size]
            omega
          · simp only [bytes, encodedLength, minLength, size, lengthOctet, List.cons_append,
              List.take_append_drop]

theorem decode_complete (rest : Octets) (fits : attr.Fits) : decode (attr.bytes ++ rest) = .ok attr := by
  have length : (UInt8.ofNat attr.encodedLength).toNat = attr.encodedLength := by
    simp only [Fits, maxValueLength, encodedLength, minLength] at *
    simp only [UInt8.toNat_ofNat', Nat.reducePow]
    omega
  have header : ¬ (attr.bytes ++ rest).length < minLength := by
    simp only [List.length_append, bytes_length, encodedLength]
    omega
  have inRange : minLength ≤ attr.encodedLength ∧ attr.encodedLength ≤ maxLength := by
    simp only [Fits, maxValueLength, encodedLength, minLength, maxLength] at *
    omega
  have covered : ¬ (attr.bytes ++ rest).length < attr.encodedLength := by
    simp
  have value : ((attr.bytes ++ rest).drop 2).take (attr.encodedLength - minLength) = attr.value := by
    simp [bytes, encodedLength]
  have lengthField : (attr.bytes ++ rest).getD 1 0 = UInt8.ofNat attr.encodedLength := rfl
  simp only [decode, header, if_false, lengthField, length, inRange, and_self, not_true, covered,
    value]
  rfl

/-- Attributes on the wire: a type octet, a length octet that counts all three
parts, and the value. -/
theorem lawful : Framing.Lawful decode encodedLength bytes Fits where
  sound := decode_sound
  complete := decode_complete
  width_eq := fun attr => attr.bytes_length.symm
  progress := fun attr => by simp [encodedLength, minLength]

end Attribute

end UsgRadius
