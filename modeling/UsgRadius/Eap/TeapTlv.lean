import UsgRadius.Eap.EapTls

namespace UsgRadius.Eap

open Data

inductive TlvType where
  | authorityId
  | identityType
  | result
  | nak
  | error
  | channelBinding
  | vendorSpecific
  | requestAction
  | eapPayload
  | intermediateResult
  | pac
  | cryptoBinding
  | basicPasswordAuthReq
  | basicPasswordAuthResp
  | pkcs7
  | pkcs10
  | trustedServerRoot
deriving DecidableEq

namespace TlvType

def asU16 : TlvType → UInt16
  | authorityId => 1
  | identityType => 2
  | result => 3
  | nak => 4
  | error => 5
  | channelBinding => 6
  | vendorSpecific => 7
  | requestAction => 8
  | eapPayload => 9
  | intermediateResult => 10
  | pac => 11
  | cryptoBinding => 12
  | basicPasswordAuthReq => 13
  | basicPasswordAuthResp => 14
  | pkcs7 => 15
  | pkcs10 => 16
  | trustedServerRoot => 17

def fromU16 : UInt16 → Option TlvType
  | 1 => some authorityId
  | 2 => some identityType
  | 3 => some result
  | 4 => some nak
  | 5 => some error
  | 6 => some channelBinding
  | 7 => some vendorSpecific
  | 8 => some requestAction
  | 9 => some eapPayload
  | 10 => some intermediateResult
  | 11 => some pac
  | 12 => some cryptoBinding
  | 13 => some basicPasswordAuthReq
  | 14 => some basicPasswordAuthResp
  | 15 => some pkcs7
  | 16 => some pkcs10
  | 17 => some trustedServerRoot
  | _ => none

end TlvType

structure TeapTlv where
  tlvType : UInt16
  mandatory : Bool
  value : Octets
deriving DecidableEq

namespace TeapTlv

def mandatoryFlag : UInt16 := 0x8000
def reservedFlag : UInt16 := 0x4000
def typeMask : UInt16 := 0x3fff

def new (tlvType : TlvType) (mandatory : Bool) (value : Octets) : TeapTlv where
  tlvType := tlvType.asU16
  mandatory
  value

/-- How many octets of its input `from_bytes` has consumed. -/
def encodedLength (tlv : TeapTlv) : Nat :=
  4 + tlv.value.length

def fromBytes (data : Octets) : Except EapError TeapTlv :=
  if data.length < 4 then
    .error (.packetTooShort 4 data.length)
  else
    let typeField := UInt16.ofNat (fromBe (data.take 2))
    let mandatory := typeField &&& mandatoryFlag != 0
    if typeField &&& reservedFlag ≠ 0 then
      .error .invalidResponseFormat
    else
      let tlvType := typeField &&& typeMask
      let length := fromBe ((data.drop 2).take 2)
      if data.length < 4 + length then
        .error (.invalidLength length)
      else
        .ok { tlvType, mandatory, value := (data.drop 4).take length }

def toBytes (tlv : TeapTlv) : Octets :=
  let typeField := (tlv.tlvType &&& typeMask) ||| (if tlv.mandatory then mandatoryFlag else 0)
  toBe 2 typeField.toNat ++ toBe 2 tlv.value.length ++ tlv.value

def parseTlvs (data : Octets) : Except EapError (List TeapTlv) :=
  Framing.parse fromBytes encodedLength data

def encodeTlvs (tlvs : List TeapTlv) : Octets :=
  tlvs.flatMap toBytes

def getType (tlv : TeapTlv) : Option TlvType :=
  TlvType.fromU16 tlv.tlvType

def find (tlvs : List TeapTlv) (tlvType : TlvType) : Option TeapTlv :=
  tlvs.find? fun tlv => tlv.getType == some tlvType

/-- A TLV the receiver must understand and does not know. -/
def UnknownMandatory (tlv : TeapTlv) : Prop :=
  tlv.mandatory = true ∧ tlv.getType = none

instance (tlv : TeapTlv) : Decidable tlv.UnknownMandatory :=
  inferInstanceAs (Decidable (_ ∧ _))

end TeapTlv

inductive TeapResult where
  | success
  | failure
deriving DecidableEq

namespace TeapResult

def asU16 : TeapResult → UInt16
  | success => 1
  | failure => 2

def fromU16 : UInt16 → Option TeapResult
  | 1 => some success
  | 2 => some failure
  | _ => none

def toResultTlv (result : TeapResult) : TeapTlv :=
  .new .result true (toBe 2 result.asU16.toNat)

def toIntermediateResultTlv (result : TeapResult) : TeapTlv :=
  .new .intermediateResult true (toBe 2 result.asU16.toNat)

def fromResultTlv (tlv : TeapTlv) : Except EapError TeapResult :=
  if tlv.tlvType ≠ TlvType.result.asU16 ∧ tlv.tlvType ≠ TlvType.intermediateResult.asU16 then
    .error .invalidResponseFormat
  else if tlv.value.length < 2 then
    .error (.invalidLength tlv.value.length)
  else
    match fromU16 (UInt16.ofNat (fromBe (tlv.value.take 2))) with
    | some result => .ok result
    | none => .error .invalidResponseFormat

def fromIntermediateResultTlv (tlv : TeapTlv) : Except EapError TeapResult :=
  fromResultTlv tlv

end TeapResult

inductive IdentityType where
  | user
  | machine
deriving DecidableEq

namespace IdentityType

def asU16 : IdentityType → UInt16
  | user => 1
  | machine => 2

def fromU16 : UInt16 → Option IdentityType
  | 1 => some user
  | 2 => some machine
  | _ => none

def toTlv (identityType : IdentityType) : TeapTlv :=
  .new .identityType true (toBe 2 identityType.asU16.toNat)

def fromTlv (tlv : TeapTlv) : Except EapError IdentityType :=
  if tlv.tlvType ≠ TlvType.identityType.asU16 then
    .error .invalidResponseFormat
  else if tlv.value.length < 2 then
    .error (.invalidLength tlv.value.length)
  else
    match fromU16 (UInt16.ofNat (fromBe (tlv.value.take 2))) with
    | some identityType => .ok identityType
    | none => .error .invalidResponseFormat

end IdentityType

def teapVersion : UInt8 := 1

structure TeapPacket where
  tls : EapTlsPacket
  version : UInt8
  outerTlvs : Octets
deriving DecidableEq

namespace TeapPacket

def flagOuterTlvLength : UInt8 := 0x10
def versionMask : UInt8 := 0x07

def new (tls : EapTlsPacket) : TeapPacket where
  tls
  version := teapVersion
  outerTlvs := []

def startPacket : TeapPacket :=
  new .startPacket

def ack : TeapPacket :=
  new .ack

def takeMessageLength (flags : TlsFlags) (data : Octets) : Except EapError (Option UInt32 × Octets) :=
  if flags.lengthIncluded then
    if data.length < 5 then .error (.packetTooShort 5 data.length)
    else .ok (some (UInt32.ofNat (fromBe ((data.drop 1).take 4))), data.drop 5)
  else
    .ok (none, data.drop 1)

/-- The Message Length counts the Outer TLV Length field and the Outer TLVs;
the reassembler wants the length of the TLS Data. -/
def reduceMessageLength (length : Option UInt32) (outerLength : Nat) : Except EapError (Option UInt32) :=
  match length with
  | none => .ok none
  | some length =>
    if length.toNat < 4 + outerLength then .error (.invalidLength length.toNat)
    else .ok (some (UInt32.ofNat (length.toNat - (4 + outerLength))))

def fromEapData (data : Octets) : Except EapError TeapPacket :=
  match data with
  | [] => .error (.packetTooShort 1 0)
  | rawFlags :: _ => do
    let version := rawFlags &&& versionMask
    let flags := TlsFlags.fromU8 rawFlags
    let (length, rest) ← takeMessageLength flags data
    if rawFlags &&& flagOuterTlvLength = 0 then
      return { tls := { flags, tlsMessageLength := length, tlsData := rest }, version, outerTlvs := [] }
    else if flags.moreFragments then
      throw .fragmentationNotSupported
    else if rest.length < 4 then
      throw (.packetTooShort (data.length - rest.length + 4) data.length)
    else do
      let outerLength := fromBe (rest.take 4)
      let payload := rest.drop 4
      if outerLength > payload.length then
        throw (.invalidLength outerLength)
      else do
        let split := payload.length - outerLength
        let outerTlvs := payload.drop split
        let _ ← TeapTlv.parseTlvs outerTlvs
        let tlsMessageLength ← reduceMessageLength length outerLength
        return { tls := { flags, tlsMessageLength, tlsData := payload.take split }, version, outerTlvs }

def toEapData (packet : TeapPacket) : Octets :=
  let flags := packet.tls.flags.asU8 ||| (packet.version &&& versionMask)
  let length := packet.tls.tlsMessageLength.elim [] fun length => toBe 4 length.toNat
  if packet.outerTlvs.isEmpty then
    flags :: (length ++ packet.tls.tlsData)
  else
    let outerLength := packet.outerTlvs.length
    let length := packet.tls.tlsMessageLength.elim [] fun length => toBe 4 (length.toNat + 4 + outerLength)
    (flags ||| flagOuterTlvLength) :: (length ++ toBe 4 outerLength ++ packet.tls.tlsData ++ packet.outerTlvs)

end TeapPacket

end UsgRadius.Eap
