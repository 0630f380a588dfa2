import UsgRadius.Revocation.Certificate

namespace UsgRadius.Revocation

open Data Der

/-! OCSP: the request for one certificate, the response as it is parsed, who may
sign it, and which of its answers is taken. Times are seconds since 1970. -/

inductive OcspResponseStatus where
  | successful
  | malformedRequest
  | internalError
  | tryLater
  | sigRequired
  | unauthorized
deriving DecidableEq

namespace OcspResponseStatus

def fromU8 (value : UInt8) : Option OcspResponseStatus :=
  if value = 0 then some successful
  else if value = 1 then some malformedRequest
  else if value = 2 then some internalError
  else if value = 3 then some tryLater
  else if value = 5 then some sigRequired
  else if value = 6 then some unauthorized
  else none

/-- The variant as `{:?}` shows it. -/
def debug : OcspResponseStatus → String
  | successful => "Successful"
  | malformedRequest => "MalformedRequest"
  | internalError => "InternalError"
  | tryLater => "TryLater"
  | sigRequired => "SigRequired"
  | unauthorized => "Unauthorized"

end OcspResponseStatus

inductive CertificateStatus where
  | good
  | revoked (revocationTime : Nat) (reason : Option UInt8)
  | unknown
deriving DecidableEq

def CertificateStatus.isRevoked : CertificateStatus → Bool
  | .revoked _ _ => true
  | _ => false

structure CertId where
  hashAlgorithm : Octets
  issuerNameHash : Octets
  issuerKeyHash : Octets
  serialNumber : Octets
deriving DecidableEq

def SHA256_OID : Octets := [0x60, 0x86, 0x48, 0x01, 0x65, 0x03, 0x04, 0x02, 0x01]
def OCSP_BASIC_OID : Octets := [0x2B, 0x06, 0x01, 0x05, 0x05, 0x07, 0x30, 0x01, 0x01]
def OCSP_NONCE_OID : Octets := [0x2B, 0x06, 0x01, 0x05, 0x05, 0x07, 0x30, 0x01, 0x02]

namespace Der

def lengthOctets : Nat → Nat → Octets
  | 0, _ => []
  | budget + 1, len => if len = 0 then [] else lengthOctets budget (len / 256) ++ [(len % 256).toUInt8]

def derLength (length : Nat) : Octets :=
  if length < 128 then [length.toUInt8]
  else
    let octets := lengthOctets length length
    (0x80 ||| octets.length.toUInt8) :: octets

def derTlv (tag : UInt8) (contents : Octets) : Octets :=
  tag :: derLength contents.length ++ contents

def derSequence (contents : Octets) : Octets := derTlv 0x30 contents

def derOctetString (contents : Octets) : Octets := derTlv 0x04 contents

def derInteger (value : Octets) : Octets :=
  derTlv 0x02 (match value with
    | first :: _ => if first &&& 0x80 ≠ 0 then 0 :: value else value
    | [] => value)

def derNull : Octets := [0x05, 0x00]

def derExplicitContext (tag : UInt8) (contents : Octets) : Octets := derTlv (0xA0 ||| tag) contents

def higherSeptets : Nat → Nat → Octets
  | 0, _ => []
  | budget + 1, value =>
    if value = 0 then [] else higherSeptets budget (value / 128) ++ [0x80 ||| (value % 128).toUInt8]

def encodeBase128 (value : Nat) : Octets :=
  higherSeptets value (value / 128) ++ [(value % 128).toUInt8]

def derOid : List Nat → Octets
  | first :: second :: rest => derTlv 0x06 ((40 * first + second).toUInt8 :: rest.flatMap encodeBase128)
  | _ => derTlv 0x06 []

end Der

example : Der.derOid [2, 16, 840, 1, 101, 3, 4, 2, 1] = Der.derTlv 0x06 SHA256_OID := by decide +kernel

structure OcspRequestBuilder where
  serialNumber : Octets
  issuerNameHash : Octets
  issuerKeyHash : Octets
  nonce : Option Octets
deriving DecidableEq

namespace OcspRequestBuilder

def new (libraries : Libraries) (cert issuer : Octets) : Fallible OcspRequestBuilder :=
  match libraries.parseX509Certificate cert with
  | .error e => .error (.parseError ("Failed to parse certificate: " ++ e))
  | .ok certParsed =>
    match libraries.parseX509Certificate issuer with
    | .error e => .error (.parseError ("Failed to parse issuer certificate: " ++ e))
    | .ok issuerParsed => .ok {
        serialNumber := certParsed.serial
        issuerNameHash := (libraries.sha256 issuerParsed.subject).octets
        issuerKeyHash := (libraries.sha256 issuerParsed.publicKey).octets
        nonce := none }

def certId (builder : OcspRequestBuilder) : CertId where
  hashAlgorithm := SHA256_OID
  issuerNameHash := builder.issuerNameHash
  issuerKeyHash := builder.issuerKeyHash
  serialNumber := integerMagnitude builder.serialNumber

def withNonce (builder : OcspRequestBuilder) (nonce : Octets) : OcspRequestBuilder :=
  { builder with nonce := some nonce }

def buildCertId (builder : OcspRequestBuilder) : Octets :=
  derSequence (derSequence (derOid [2, 16, 840, 1, 101, 3, 4, 2, 1] ++ derNull) ++ derOctetString builder.issuerNameHash ++
    derOctetString builder.issuerKeyHash ++ derInteger builder.serialNumber)

def buildNonceExtension (nonce : Octets) : Octets :=
  derSequence (derSequence (derOid [1, 3, 6, 1, 5, 5, 7, 48, 1, 2] ++ derOctetString (derOctetString nonce)))

def buildTbsRequest (builder : OcspRequestBuilder) (request : Octets) : Octets :=
  derSequence (derSequence request ++
    match builder.nonce with
    | some nonce => derExplicitContext 2 (buildNonceExtension nonce)
    | none => [])

def build (builder : OcspRequestBuilder) : Octets :=
  derSequence (builder.buildTbsRequest (derSequence builder.buildCertId))

end OcspRequestBuilder

def parseErr (what : String) : RevocationError :=
  .parseError ("OCSP response: " ++ what)

def CertId.parse (tlv : Tlv) : Fallible CertId := do
  if tlv.tag ≠ TAG_SEQUENCE then
    throw (parseErr "CertID is not a SEQUENCE")
  let (alg, rest) ← expectTlv tlv.content TAG_SEQUENCE
  let (oid, _) ← expectTlv alg.content TAG_OID
  let (nameHash, rest) ← expectTlv rest TAG_OCTET_STRING
  let (keyHash, rest) ← expectTlv rest TAG_OCTET_STRING
  let (serial, rest) ← expectTlv rest TAG_INTEGER
  if !rest.isEmpty then
    throw (parseErr "trailing data in CertID")
  return ⟨oid.content, nameHash.content, keyHash.content, integerMagnitude serial.content⟩

def CertId.cacheKey (certId : CertId) : Octets :=
  certId.issuerKeyHash ++ certId.issuerNameHash ++ certId.serialNumber

inductive ResponderId where
  | byName (name : Octets)
  | byKey (hash : Octets)
deriving DecidableEq

structure SingleResponse where
  certId : CertId
  status : CertificateStatus
  thisUpdate : Nat
  nextUpdate : Option Nat
deriving DecidableEq

structure BasicOcspResponse where
  tbs : Octets
  signatureAlgorithm : Octets
  signature : Octets
  certs : List Octets
  responderId : ResponderId
  producedAt : Nat
  responses : List SingleResponse
  nonce : Option Octets
deriving DecidableEq

section Parsing

variable (libraries : Libraries)

/-- The text before a final `Z`. -/
def stripZ (text : String) : Option String :=
  match text.toList.reverse with
  | 'Z' :: rest => some (String.ofList rest.reverse)
  | _ => none

def parseGeneralizedTime (text : String) : Fallible Nat :=
  match (stripZ text).bind libraries.naiveTimestamp with
  | none => .error (.parseError ("Failed to parse GeneralizedTime '" ++ text ++ "'"))
  | some timestamp =>
    if timestamp < 0 then .error (.parseError "GeneralizedTime before 1970") else .ok timestamp.toNat

def parseGeneralizedTimeDer (content : Octets) : Fallible Nat :=
  match fromUtf8 content with
  | none => .error (parseErr "GeneralizedTime")
  | some text => parseGeneralizedTime libraries text

def parseOuter (der : Octets) : Fallible (OcspResponseStatus × Option Octets) := do
  let (outer, rest) ← expectTlv der TAG_SEQUENCE
  if !rest.isEmpty then
    throw (parseErr "trailing data")
  let (status, rest) ← expectTlv outer.content TAG_ENUMERATED
  match status.content with
  | [value] =>
    match OcspResponseStatus.fromU8 value with
    | none => throw (parseErr ("unknown responseStatus " ++ toString value.toNat))
    | some .successful => do
      let (explicit, rest) ←
        match expectTlv rest 0xA0 with
        | .ok read => pure read
        | .error _ => throw (parseErr "missing responseBytes")
      let (responseBytes, innerRest) ← expectTlv explicit.content TAG_SEQUENCE
      let (responseType, bytesRest) ← expectTlv responseBytes.content TAG_OID
      if responseType.content ≠ OCSP_BASIC_OID then
        throw (parseErr "responseType is not id-pkix-ocsp-basic")
      let (response, after) ← expectTlv bytesRest TAG_OCTET_STRING
      if !rest.isEmpty || !innerRest.isEmpty || !after.isEmpty then
        throw (parseErr "trailing data in responseBytes")
      return (.successful, some response.content)
    | some status => return (status, none)
  | _ => throw (parseErr "responseStatus")

def parseCertStatus (tlv : Tlv) : Fallible CertificateStatus := do
  if tlv.tag = 0x80 ∧ tlv.content = [] then
    return .good
  else if tlv.tag = 0xA1 then do
    let (time, rest) ← expectTlv tlv.content TAG_GENERALIZED_TIME
    let revocationTime ← parseGeneralizedTimeDer libraries time.content
    if rest.isEmpty then
      return .revoked revocationTime none
    else do
      let (explicit, after) ← expectTlv rest 0xA0
      let (reason, inner) ← expectTlv explicit.content TAG_ENUMERATED
      match reason.content, after.isEmpty && inner.isEmpty with
      | [reason], true => return .revoked revocationTime (some reason)
      | _, _ => throw (parseErr "revocationReason")
  else if tlv.tag = 0x82 ∧ tlv.content = [] then
    return .unknown
  else
    throw (parseErr ("unknown CertStatus tag " ++ showOctet tlv.tag))

def parseExtension (allowNonce : Bool) (nonce : Option Octets) (ext : Tlv) : Fallible (Option Octets) := do
  let (oid, extRest) ← expectTlv ext.content TAG_OID
  let (item, extRest) ← readTlv extRest
  let (critical, item, extRest) ←
    if item.tag = 0x01 then do
      let critical ←
        match item.content with
        | [0xFF] => pure true
        | [0x00] => pure false
        | _ => throw (parseErr "extension critical flag is not a DER BOOLEAN")
      let (item, extRest) ← readTlv extRest
      pure (critical, item, extRest)
    else pure (false, item, extRest)
  if item.tag ≠ TAG_OCTET_STRING ∨ !extRest.isEmpty then
    throw (parseErr "malformed extension")
  if allowNonce ∧ oid.content = OCSP_NONCE_OID then do
    let (inner, after) ← expectTlv item.content TAG_OCTET_STRING
    if !after.isEmpty || inner.content.isEmpty || nonce.isSome then
      throw (parseErr "malformed or repeated nonce extension")
    return some inner.content
  else if critical then
    throw (parseErr "unrecognized critical extension")
  else
    return nonce

def parseExtensions (explicit : Octets) (allowNonce : Bool) : Fallible (Option Octets) := do
  let (seq, after) ← expectTlv explicit TAG_SEQUENCE
  if !after.isEmpty then
    throw (parseErr "trailing data after Extensions")
  foldTlvs TAG_SEQUENCE (parseExtension allowNonce) none seq.content

/-- The nextUpdate that may come first, and what follows it. -/
def parseNextUpdate (rest : Octets) : Fallible (Option Nat × Octets) := do
  match readTlv rest with
  | .ok (item, next) =>
    if item.tag = 0xA0 then do
      let (time, after) ← expectTlv item.content TAG_GENERALIZED_TIME
      if !after.isEmpty then
        throw (parseErr "trailing data in nextUpdate")
      let nextUpdate ← parseGeneralizedTimeDer libraries time.content
      return (some nextUpdate, next)
    else
      return (none, rest)
  | .error _ => return (none, rest)

def parseSingleResponse (content : Octets) : Fallible SingleResponse := do
  let (certId, rest) ← readTlv content
  let certId ← CertId.parse certId
  let (status, rest) ← readTlv rest
  let status ← parseCertStatus libraries status
  let (thisUpdate, rest) ← expectTlv rest TAG_GENERALIZED_TIME
  let thisUpdate ← parseGeneralizedTimeDer libraries thisUpdate.content
  let (nextUpdate, rest) ← parseNextUpdate libraries rest
  if !rest.isEmpty then
    let (exts, rest) ← expectTlv rest 0xA1
    if !rest.isEmpty then
      throw (parseErr "trailing data in SingleResponse")
    let _ ← parseExtensions exts.content false
  return ⟨certId, status, thisUpdate, nextUpdate⟩

def parseCerts (trailing : Octets) : Fallible (List Octets) := do
  if trailing.isEmpty then
    return []
  let (explicit, rest) ← expectTlv trailing 0xA0
  if !rest.isEmpty then
    throw (parseErr "trailing data after certs")
  let (seq, after) ← expectTlv explicit.content TAG_SEQUENCE
  if !after.isEmpty then
    throw (parseErr "trailing data in certs")
  foldTlvs TAG_SEQUENCE (fun certs cert => .ok (certs ++ [cert.raw])) [] seq.content

def parseResponderId (item : Tlv) : Fallible ResponderId := do
  let (responderId, after) ←
    if item.tag = 0xA1 then do
      let (name, after) ← expectTlv item.content TAG_SEQUENCE
      pure (ResponderId.byName name.raw, after)
    else if item.tag = 0xA2 then do
      let (hash, after) ← expectTlv item.content TAG_OCTET_STRING
      pure (ResponderId.byKey hash.content, after)
    else throw (parseErr "responderID")
  if !after.isEmpty then
    throw (parseErr "trailing data in responderID")
  return responderId

/-- The first item of the data after the version, which may be given if it is v1. -/
def skipVersion (content : Octets) : Fallible (Tlv × Octets) := do
  let (item, rest) ← readTlv content
  if item.tag = 0xA0 then do
    let (version, after) ← expectTlv item.content TAG_INTEGER
    if version.content ≠ [0] ∨ !after.isEmpty then
      throw (parseErr "unsupported ResponseData version")
    readTlv rest
  else
    return (item, rest)

def parseResponseNonce (rest : Octets) : Fallible (Option Octets) := do
  if rest.isEmpty then
    return none
  let (exts, rest) ← expectTlv rest 0xA1
  if !rest.isEmpty then
    throw (parseErr "trailing data in ResponseData")
  parseExtensions exts.content true

def BasicOcspResponse.parse (der : Octets) : Fallible BasicOcspResponse := do
  let signed ← splitSigned der
  let certs ← parseCerts signed.trailing
  let (tbs, _) ← expectTlv signed.tbs TAG_SEQUENCE
  let (item, rest) ← skipVersion tbs.content
  let responderId ← parseResponderId item
  let (producedAt, rest) ← expectTlv rest TAG_GENERALIZED_TIME
  let producedAt ← parseGeneralizedTimeDer libraries producedAt.content
  let (responsesSeq, rest) ← expectTlv rest TAG_SEQUENCE
  let nonce ← parseResponseNonce rest
  let responses ← foldTlvs TAG_SEQUENCE
    (fun responses single => do return responses ++ [← parseSingleResponse libraries single.content]) [] responsesSeq.content
  if responses.isEmpty then
    throw (parseErr "no SingleResponse")
  return {
    tbs := signed.tbs
    signatureAlgorithm := signed.algorithm
    signature := signed.signature
    certs
    responderId
    producedAt
    responses
    nonce }

end Parsing

inductive ResponderAuthorization where
  | issuer
  | delegated (certificate : Octets) (nocheck : Bool)
deriving DecidableEq

def RESPONDER_KNOWN_EXTENSIONS : List String :=
  ["2.5.29.19", "2.5.29.15", "2.5.29.37", "2.5.29.17", "2.5.29.14", "2.5.29.35", "1.3.6.1.5.5.7.48.1.5"]

namespace BasicOcspResponse

def signedData (basic : BasicOcspResponse) : SignedData :=
  ⟨basic.tbs, basic.signatureAlgorithm, basic.signature, []⟩

/-- A hash of the key is not looked into. -/
def responderIdNames (basic : BasicOcspResponse) (cert : X509Certificate) : Bool :=
  match basic.responderId with
  | .byName name => name == cert.subject
  | .byKey hash => hash.length == 20

end BasicOcspResponse

section Signer

variable (libraries : Libraries) (algorithms : WebPkiSupportedAlgorithms)

/-- Why a certificate may not answer for the certificates of an issuer. -/
def delegatedResponderProblem (responder : X509Certificate) (responderDer issuerDer : Octets) (now : Int) : Option String :=
  if !isIssuedBy libraries algorithms responderDer issuerDer then
    some "OCSP responder certificate is not issued by the certificate's CA"
  else if responder.extendedKeyUsage.toOption ≠ some (some true) then
    some "OCSP responder certificate lacks id-kp-OCSPSigning"
  else
    match responder.extensions.find? fun ext => ext.critical && ext.oid ∉ RESPONDER_KNOWN_EXTENSIONS with
    | some ext => some ("OCSP responder certificate has unrecognized critical extension " ++ ext.oid)
    | none =>
      match responder.keyUsage with
      | .error _ => some "OCSP responder keyUsage is malformed"
      | .ok usage =>
        if usage.any fun usage => !usage.digitalSignature && !usage.nonRepudiation then
          some "OCSP responder keyUsage does not permit signing"
        else if !responder.isValidAt now then
          some "OCSP responder certificate is outside its validity period"
        else none

namespace BasicOcspResponse

/-- The first of the certificates that made the signature and may; if there is
none, the first reason why one may not is reported. -/
def authorizeDelegate (basic : BasicOcspResponse) (issuerDer : Octets) (now : Int) :
    Option RevocationError → List Octets → Fallible ResponderAuthorization
  | disqualified, [] =>
    .error (disqualified.getD
      (.invalidSignature "OCSP response is not signed by the issuing CA or an authorized responder"))
  | disqualified, certDer :: certs =>
    match libraries.parseX509Certificate certDer with
    | .error _ => authorizeDelegate basic issuerDer now disqualified certs
    | .ok responder =>
      if !basic.responderIdNames responder || !(verifySignedData algorithms responder.spki basic.signedData).isOk then
        authorizeDelegate basic issuerDer now disqualified certs
      else
        match delegatedResponderProblem libraries algorithms responder certDer issuerDer now with
        | none => .ok (.delegated certDer responder.hasOcspNocheck)
        | some why =>
          authorizeDelegate basic issuerDer now (disqualified.or (some (.invalidSignature why))) certs

def authorizeSigner (basic : BasicOcspResponse) (issuerDer : Octets) (now : UnixTime) : Fallible ResponderAuthorization :=
  match libraries.parseX509Certificate issuerDer with
  | .error e => .error (.certificateError ("Failed to parse issuer certificate: " ++ e))
  | .ok issuer =>
    if basic.responderIdNames issuer && (verifySignedData algorithms issuer.spki basic.signedData).isOk then
      .ok .issuer
    else if now.asSecs > 253402300799 then .error (.ocspError "time out of range")
    else authorizeDelegate libraries algorithms basic issuerDer now.asSecs none basic.certs

end BasicOcspResponse

end Signer

structure OcspResponse where
  status : OcspResponseStatus
  certStatus : Option CertificateStatus
  producedAt : Nat
  thisUpdate : Nat
  nextUpdate : Option Nat
  nonce : Option Octets
  rawBytes : Octets
deriving DecidableEq

def THIS_UPDATE_LEEWAY : Nat := 300

namespace OcspResponse

def fromSingle (status : OcspResponseStatus) (basic : BasicOcspResponse) (single : SingleResponse) (derBytes : Octets) :
    OcspResponse where
  status
  certStatus := some single.status
  producedAt := basic.producedAt
  thisUpdate := single.thisUpdate
  nextUpdate := single.nextUpdate
  nonce := basic.nonce
  rawBytes := derBytes

def isWithinMaxAge (response : OcspResponse) (now maxAge : Nat) : Bool :=
  response.nextUpdate.isSome || now ≤ response.thisUpdate + maxAge

def isFreshAt (response : OcspResponse) (now : Nat) : Bool :=
  !(now + THIS_UPDATE_LEEWAY < response.thisUpdate) &&
    response.nextUpdate.all fun nextUpdate => !(now ≥ nextUpdate)

/-- The time until nextUpdate, or an hour. -/
def cacheTtl (response : OcspResponse) (now : Nat) : Nat :=
  match response.nextUpdate with
  | some nextUpdate => if now ≤ nextUpdate then nextUpdate - now else 3600
  | none => 3600

def isRevoked (response : OcspResponse) : Bool :=
  response.certStatus.any CertificateStatus.isRevoked

def parseVerified (libraries : Libraries) (algorithms : WebPkiSupportedAlgorithms) (derBytes : Octets) (request : CertId)
    (issuerDer : Octets) (now : UnixTime) (maxAge : Nat) : Fallible (OcspResponse × ResponderAuthorization) := do
  match ← parseOuter derBytes with
  | (status, none) => throw (.ocspError ("OCSP responder returned error status: " ++ status.debug))
  | (status, some basicDer) => do
    let basic ← BasicOcspResponse.parse libraries basicDer
    match basic.responses.find? fun single => single.certId == request with
    | none => throw (.ocspError "OCSP response has no SingleResponse for the requested CertID")
    | some single => do
      let authorization ← basic.authorizeSigner libraries algorithms issuerDer now
      let response := fromSingle status basic single derBytes
      if !response.isFreshAt now.asSecs then
        throw (.ocspError "OCSP response is not current (thisUpdate/nextUpdate)")
      if !response.isWithinMaxAge now.asSecs maxAge then
        throw (.ocspError ("OCSP response has no nextUpdate and its thisUpdate is older than " ++ toString maxAge ++
          " s"))
      return (response, authorization)

end OcspResponse

end UsgRadius.Revocation
