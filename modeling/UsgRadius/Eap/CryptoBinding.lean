import UsgRadius.Eap.TeapTlv
import UsgRadius.Eap.TlsServer

namespace UsgRadius.Eap

open Data

/-- The keyed hashes of the key schedule: any functions with the right output
size. -/
structure Hmacs where
  sha256 : (key data : Octets) → Block 32
  sha384 : (key data : Octets) → Block 48

/-- Hashes to run the model with. -/
def Hmacs.checksum : Hmacs where
  sha256 := fun key data => .fill 32 (key.sum + 3 * data.sum)
  sha384 := fun key data => .fill 48 (key.sum + 5 * data.sum)

inductive TeapHash where
  | sha256
  | sha384
deriving DecidableEq

namespace TeapHash

def fromCipherSuite (suite : SupportedCipherSuite) : TeapHash :=
  match suite.tls13 with
  | some .sha384 => sha384
  | some _ => sha256
  | none =>
    match suite.suite with
    | .ecdheEcdsaWithAes256GcmSha384 | .ecdheRsaWithAes256GcmSha384 | .dheRsaWithAes256GcmSha384 => sha384
    | .other => sha256

def hmac (hmacs : Hmacs) (hash : TeapHash) (key data : Octets) : Octets :=
  match hash with
  | sha256 => (hmacs.sha256 key data).octets
  | sha384 => (hmacs.sha384 key data).octets

theorem hmac_length_ge (hmacs : Hmacs) (hash : TeapHash) (key data : Octets) :
    20 ≤ (hash.hmac hmacs key data).length := by
  cases hash <;> simp [hmac]

end TeapHash

def compoundMacLength : Nat := 20

structure CryptoBindingTlv where
  version : UInt8
  receivedVersion : UInt8
  flags : UInt8
  subType : UInt8
  nonce : Block 32
  emskCompoundMac : Block compoundMacLength
  mskCompoundMac : Block compoundMacLength
deriving DecidableEq

namespace CryptoBindingTlv

def subtypeRequest : UInt8 := 0
def subtypeResponse : UInt8 := 1
def flagsMsk : UInt8 := 2
def bindingVersion : UInt8 := teapVersion
def valueLength : Nat := 4 + 32 + 2 * compoundMacLength

def new (subType flags receivedVersion : UInt8) (nonce : Block 32) : CryptoBindingTlv where
  version := bindingVersion
  receivedVersion
  flags
  subType
  nonce
  emskCompoundMac := .zero _
  mskCompoundMac := .zero _

def toTlv (binding : CryptoBindingTlv) : TeapTlv :=
  .new .cryptoBinding true
    ([0, binding.version, binding.receivedVersion, (binding.flags <<< 4) ||| (binding.subType &&& 0x0f)] ++
      binding.nonce.octets ++ binding.emskCompoundMac.octets ++ binding.mskCompoundMac.octets)

def teapEapType : UInt8 := 0x37

/-- What the Compound-MACs are computed over: the TLV with both MACs zeroed,
the EAP type, and the Outer TLVs of both first messages. -/
def macBuffer (binding : CryptoBindingTlv) (serverOuterTlvs peerOuterTlvs : Octets) : Octets :=
  { binding with emskCompoundMac := .zero _, mskCompoundMac := .zero _ }.toTlv.toBytes ++ [teapEapType] ++
    serverOuterTlvs ++ peerOuterTlvs

def fromTlv (tlv : TeapTlv) : Except EapError CryptoBindingTlv :=
  if tlv.tlvType ≠ TlvType.cryptoBinding.asU16 then
    .error .invalidResponseFormat
  else if tlv.value.length ≠ valueLength then
    .error (.invalidLength tlv.value.length)
  else
    match Block.ofOctets? 32 ((tlv.value.drop 4).take 32),
      Block.ofOctets? compoundMacLength ((tlv.value.drop 36).take 20),
      Block.ofOctets? compoundMacLength ((tlv.value.drop 56).take 20) with
    | some nonce, some emskCompoundMac, some mskCompoundMac =>
      .ok { version := tlv.value.getD 1 0
            receivedVersion := tlv.value.getD 2 0
            flags := tlv.value.getD 3 0 >>> 4
            subType := tlv.value.getD 3 0 &&& 0x0f
            nonce, emskCompoundMac, mskCompoundMac }
    | _, _, _ => .error .invalidResponseFormat

end CryptoBindingTlv

structure CryptoBinding where
  hash : TeapHash
  imck : Octets
  cmk : Octets
  serverNonce : Block 32
  clientNonce : Option (Block 32)
deriving DecidableEq

namespace CryptoBinding

def imckLength : Nat := 60
def sImckLength : Nat := 40
def cmkLength : Nat := 20
def sessionKeySeedLength : Nat := 40
def imskLength : Nat := 32
def sessionKeySeedLabel : Octets := utf8 "EXPORTER: teap session key seed"

variable (hmacs : Hmacs)

/-- `while output.len() < length { .. }`; every round adds a whole hash, so
`length` rounds are enough. -/
def prfRounds (hash : TeapHash) (secret labelSeed : Octets) (length : Nat) :
    (rounds : Nat) → (chain output : Octets) → Octets
  | 0, _, output => output
  | rounds + 1, chain, output =>
    if output.length < length then
      prfRounds hash secret labelSeed length rounds (hash.hmac hmacs secret chain)
        (output ++ hash.hmac hmacs secret (chain ++ labelSeed))
    else output

def tlsPrf (hash : TeapHash) (secret label seed : Octets) (length : Nat) : Octets :=
  (prfRounds hmacs hash secret (label ++ seed) length length (hash.hmac hmacs secret (label ++ seed)) []).take length

def deriveImck (hash : TeapHash) (prevSImck imsk : Octets) : Octets :=
  tlsPrf hmacs hash prevSImck (utf8 "Inner Methods Compound Keys") imsk imckLength

def deriveCmk (imck : Octets) : Octets :=
  (imck.drop sImckLength).take cmkLength

def sImck (binding : CryptoBinding) : Octets :=
  binding.imck.take sImckLength

def deriveMsk (binding : CryptoBinding) : Octets :=
  tlsPrf hmacs binding.hash binding.sImck (utf8 "Session Key Generating Function") [] 64

def compoundMac (hash : TeapHash) (cmk buffer : Octets) : Block compoundMacLength :=
  ⟨(hash.hmac hmacs cmk buffer).take 20, by
    rw [List.length_take, Nat.min_eq_left (hash.hmac_length_ge hmacs cmk buffer)]
    rfl⟩

def generateNonce (random : Block 32) : Block 32 :=
  ⟨random.octets.modify 31 (· &&& 0xfe), by simp⟩

def responseNonce (requestNonce : Block 32) : Block 32 :=
  ⟨requestNonce.octets.modify 31 (· ||| 0x01), by simp⟩

def withNonce (hash : TeapHash) (prevSImck imsk : Octets) (nonce : Block 32) : CryptoBinding :=
  let imck := deriveImck hmacs hash prevSImck imsk
  { hash, imck, cmk := deriveCmk imck, serverNonce := nonce, clientNonce := none }

end CryptoBinding

end UsgRadius.Eap
