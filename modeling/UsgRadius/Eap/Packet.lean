import UsgRadius.Packet.Codec

namespace UsgRadius

open Data

inductive EapError where
  | packetTooShort (expected actual : Nat)
  | invalidCode (code : UInt8)
  | invalidLength (length : Nat)
  | unknownType (eapType : UInt8)
  | fragmentationNotSupported
  | sessionNotFound
  | invalidState
  | authenticationFailed
  | invalidChallengeLength (length : Nat)
  | invalidResponseFormat
  | phase2LimitExceeded (limit : String)
  | encodingError (message : String)
  | tlsError (message : String)
  | certificateError (message : String)
  | ioError (message : String)
deriving DecidableEq

namespace Eap

inductive EapCode where
  | request
  | response
  | success
  | failure
deriving DecidableEq

namespace EapCode

def fromU8 : UInt8 → Option EapCode
  | 1 => some request
  | 2 => some response
  | 3 => some success
  | 4 => some failure
  | _ => none

def asU8 : EapCode → UInt8
  | request => 1
  | response => 2
  | success => 3
  | failure => 4

end EapCode

inductive EapType where
  | identity
  | notification
  | nak
  | md5Challenge
  | oneTimePassword
  | genericTokenCard
  | tls
  | ttls
  | peap
  | msChapV2
  | teap
deriving DecidableEq

namespace EapType

def fromU8 : UInt8 → Option EapType
  | 1 => some identity
  | 2 => some notification
  | 3 => some nak
  | 4 => some md5Challenge
  | 5 => some oneTimePassword
  | 6 => some genericTokenCard
  | 13 => some tls
  | 21 => some ttls
  | 25 => some peap
  | 26 => some msChapV2
  | 55 => some teap
  | _ => none

def asU8 : EapType → UInt8
  | identity => 1
  | notification => 2
  | nak => 3
  | md5Challenge => 4
  | oneTimePassword => 5
  | genericTokenCard => 6
  | tls => 13
  | ttls => 21
  | peap => 25
  | msChapV2 => 26
  | teap => 55

end EapType

structure EapPacket where
  code : EapCode
  identifier : UInt8
  eapType : Option EapType
  data : Octets
deriving DecidableEq

namespace EapPacket

def success (identifier : UInt8) : EapPacket where
  code := .success
  identifier
  eapType := none
  data := []

def failure (identifier : UInt8) : EapPacket where
  code := .failure
  identifier
  eapType := none
  data := []

def fromBytes (bytes : Octets) : Except EapError EapPacket :=
  if bytes.length < 4 then
    .error (.packetTooShort 4 bytes.length)
  else
    match EapCode.fromU8 (bytes.getD 0 0) with
    | none => .error (.invalidCode (bytes.getD 0 0))
    | some code =>
      let identifier := bytes.getD 1 0
      let length := fromBe ((bytes.drop 2).take 2)
      if length < 4 then
        .error (.invalidLength length)
      else if bytes.length < length then
        .error (.packetTooShort length bytes.length)
      else
        match code with
        | .request | .response =>
          if length < 5 then
            .error (.invalidLength length)
          else
            .ok { code, identifier, eapType := EapType.fromU8 (bytes.getD 4 0),
                  data := (bytes.take length).drop 5 }
        | .success | .failure => .ok { code, identifier, eapType := none, data := [] }

def length (packet : EapPacket) : Nat :=
  match packet.code with
  | .request | .response => 4 + 1 + packet.data.length
  | .success | .failure => 4

def toBytes (packet : EapPacket) : Octets :=
  [packet.code.asU8, packet.identifier] ++ toBe 2 packet.length ++
    match packet.eapType with
    | some eapType => eapType.asU8 :: packet.data
    | none => []

end EapPacket

/-! ## Carriage in EAP-Message attributes -/

/-- The octets cut into pieces of at most `size`, as many as `count` allows. -/
def chunksFrom (size : Nat) : (count : Nat) → Octets → List Octets
  | 0, _ => []
  | _ + 1, [] => []
  | count + 1, octet :: rest =>
    (octet :: rest).take size :: chunksFrom size count ((octet :: rest).drop size)

/-- `while offset < len { chunk = min(size, len - offset); .. }`: every piece
takes at least one octet, so there are no more pieces than octets. -/
def chunks (size : Nat) (data : Octets) : List Octets :=
  chunksFrom size data.length data

def eapToRadiusAttributes (packet : EapPacket) : Except EapError (List Attribute) :=
  (chunks Attribute.maxValueLength packet.toBytes).mapM fun chunk =>
    (Attribute.new AttributeType.eapMessage.asU8 chunk).mapError fun reason =>
      .encodingError s!"Failed to create EAP-Message attribute: {reason.message}"

end Eap

end UsgRadius
