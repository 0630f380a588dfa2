import UsgRadius.Data.Hex
import UsgRadius.Data.Results

namespace UsgRadius.Revocation

open Data

/-! Reading DER, and verifying the signature of a signed structure as it was
received. CRLs, OCSP responses and certificates share one shape. -/

inductive RevocationError where
  | fetchError (reason : String)
  | parseError (reason : String)
  | certificateRevoked (serial : String)
  | invalidSignature (reason : String)
  | pathBudgetExceeded (reason : String)
  | staleCrl (reason : String)
  | crlExpired (nextUpdate : String)
  | crlNotYetValid (thisUpdate : String)
  | httpError (reason : String)
  | httpTimeout (seconds : Nat)
  | invalidUrl (reason : String)
  | crlTooLarge (size limit : Nat)
  | distributionPointError (reason : String)
  | ioError (reason : String)
  | certificateError (reason : String)
  | cacheError (reason : String)
  | configError (reason : String)
  | ocspError (reason : String)
deriving DecidableEq

def RevocationError.display : RevocationError → String
  | .fetchError reason => "CRL fetch failed: " ++ reason
  | .parseError reason => "CRL parse error: " ++ reason
  | .certificateRevoked serial => "Certificate revoked: serial=" ++ serial
  | .invalidSignature reason => "signature verification failed: " ++ reason
  | .pathBudgetExceeded reason => "certification path building budget exceeded: " ++ reason
  | .staleCrl reason => "stale CRL: " ++ reason
  | .crlExpired nextUpdate => "CRL expired: nextUpdate=" ++ nextUpdate
  | .crlNotYetValid thisUpdate => "CRL not yet valid: thisUpdate=" ++ thisUpdate
  | .httpError reason => "HTTP error: " ++ reason
  | .httpTimeout seconds => "HTTP request timed out after " ++ toString seconds ++ "s"
  | .invalidUrl reason => "Invalid CRL distribution point URL: " ++ reason
  | .crlTooLarge size limit =>
    "CRL size " ++ toString size ++ " bytes exceeds maximum " ++ toString limit ++ " bytes"
  | .distributionPointError reason => "Failed to extract CRL distribution points: " ++ reason
  | .ioError reason => "IO error: " ++ reason
  | .certificateError reason => "Certificate parsing error: " ++ reason
  | .cacheError reason => "Cache error: " ++ reason
  | .configError reason => "Configuration error: " ++ reason
  | .ocspError reason => "OCSP error: " ++ reason

abbrev Fallible (Value : Type) := Except RevocationError Value

namespace Der

def TAG_INTEGER : UInt8 := 0x02
def TAG_BIT_STRING : UInt8 := 0x03
def TAG_OCTET_STRING : UInt8 := 0x04
def TAG_OID : UInt8 := 0x06
def TAG_ENUMERATED : UInt8 := 0x0A
def TAG_GENERALIZED_TIME : UInt8 := 0x18
def TAG_SEQUENCE : UInt8 := 0x30

structure Tlv where
  tag : UInt8
  content : Octets
  /-- With the identifier and length octets. -/
  raw : Octets
deriving DecidableEq

def malformed (what : String) : RevocationError :=
  .parseError ("malformed DER: " ++ what)

/-- The definite length that `first` begins, and what follows it. -/
def readLength (first : UInt8) (rest : Octets) : Fallible (Nat × Octets) :=
  if first < 0x80 then .ok (first.toNat, rest)
  else
    let n := (first &&& 0x7F).toNat
    if n = 0 ∨ n > 4 ∨ rest.length < n ∨ rest.head? = some 0 then .error (malformed "length")
    else
      let len := fromBe (rest.take n)
      if len < 0x80 then .error (malformed "non-minimal length")
      else .ok (len, rest.drop n)

def readTlv (input : Octets) : Fallible (Tlv × Octets) :=
  match input with
  | [] => .error (malformed "truncated")
  | tag :: rest =>
    if tag &&& 0x1F = 0x1F then .error (malformed "multi-octet tag")
    else
      match rest with
      | [] => .error (malformed "truncated")
      | first :: rest => do
        let (len, rest) ← readLength first rest
        if rest.length < len then
          throw (malformed "truncated")
        let header := input.length - rest.length
        return (⟨tag, rest.take len, input.take (header + len)⟩, rest.drop len)

/-- An octet as `{:#04x}` shows it. -/
def showOctet (octet : UInt8) : String :=
  "0x" ++ Hex.encode [octet]

def expectTlv (input : Octets) (tag : UInt8) : Fallible (Tlv × Octets) := do
  let (tlv, rest) ← readTlv input
  if tlv.tag ≠ tag then
    throw (malformed ("expected tag " ++ showOctet tag ++ ", found " ++ showOctet tlv.tag))
  return (tlv, rest)

/-- Goes through the elements of a SEQUENCE OF. An element takes at least two
octets, so the octets are enough of a bound. -/
def foldTlvs {State : Type} (tag : UInt8) (step : State → Tlv → Fallible State) (state : State) (rest : Octets) :
    Fallible State :=
  go rest.length state rest
where
  go : Nat → State → Octets → Fallible State
    | budget + 1, state, octet :: octets => do
      let (tlv, next) ← expectTlv (octet :: octets) tag
      go budget (← step state tlv) next
    | _, state, _ => .ok state

def bitStringOctets (tlv : Tlv) : Fallible Octets :=
  match tlv.content with
  | 0 :: bits => if tlv.tag = TAG_BIT_STRING then .ok bits else .error (malformed "BIT STRING")
  | _ => .error (malformed "BIT STRING")

structure SignedData where
  tbs : Octets
  algorithm : Octets
  signature : Octets
  trailing : Octets
deriving DecidableEq

def splitSigned (der : Octets) : Fallible SignedData := do
  let (outer, rest) ← expectTlv der TAG_SEQUENCE
  if !rest.isEmpty then
    throw (malformed "data after signed structure")
  let (tbs, rest) ← expectTlv outer.content TAG_SEQUENCE
  let (algorithm, rest) ← expectTlv rest TAG_SEQUENCE
  let (signature, trailing) ← expectTlv rest TAG_BIT_STRING
  let signature ← bitStringOctets signature
  return ⟨tbs.raw, algorithm.content, signature, trailing⟩

def integerMagnitude (content : Octets) : Octets :=
  content.dropWhile (· == 0)

end Der

open Der

structure SignatureVerificationAlgorithm where
  signatureAlgId : Octets
  publicKeyAlgId : Octets
  verifySignature : (publicKey message signature : Octets) → Bool

abbrev WebPkiSupportedAlgorithms := List SignatureVerificationAlgorithm

def verifySignedData (algorithms : WebPkiSupportedAlgorithms) (spkiDer : Octets) (signed : SignedData) : Fallible Unit := do
  let (spki, _) ← expectTlv spkiDer TAG_SEQUENCE
  let (keyAlgorithm, rest) ← expectTlv spki.content TAG_SEQUENCE
  let (key, _) ← expectTlv rest TAG_BIT_STRING
  let key ← bitStringOctets key
  let suited := algorithms.filter fun alg =>
    alg.signatureAlgId == signed.algorithm && alg.publicKeyAlgId == keyAlgorithm.content
  if suited.any fun alg => alg.verifySignature key signed.tbs signed.signature then
    return ()
  else
    throw (.invalidSignature
      (if suited.isEmpty then "unsupported signature or key algorithm"
        else "signature does not verify with the issuer's key"))

end UsgRadius.Revocation
