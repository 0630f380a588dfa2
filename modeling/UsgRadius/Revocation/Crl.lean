import UsgRadius.Revocation.Certificate

namespace UsgRadius.Revocation

open Data Der

/-! Certificate revocation lists: what is kept of one, whose it is, and whether it
is current. -/

structure CrlInfo where
  issuer : String
  issuerRaw : Octets
  thisUpdate : Int
  nextUpdate : Option Int
  revokedSerials : List Octets
  signatureAlgorithm : String
  crlNumber : Option Nat
  /-- The key that the signature was verified with. -/
  verifiedWith : Option Octets
deriving DecidableEq

/-- The times `chrono` has. -/
def asn1TimeToChrono (timestamp : Int) : Option Int :=
  if -8334601228800 ≤ timestamp ∧ timestamp ≤ 8210266876799 then some timestamp else none

/-- Extensions that change what a CRL covers are refused, and so are critical
ones that are not known. -/
def checkCrlExtension (ext : Extension) : Fallible Unit :=
  if ext.oid ∈ ["2.5.29.35", "2.5.29.18", "2.5.29.20", "2.5.29.46"] then .ok ()
  else if ext.oid = "2.5.29.27" then .error (.parseError "delta CRLs are not supported")
  else if ext.oid = "2.5.29.28" then
    .error (.parseError ("CRLs with an Issuing Distribution Point (partitioned or indirect CRLs) " ++ "are not supported"))
  else if ext.critical then .error (.parseError ("unrecognized critical CRL extension " ++ ext.oid))
  else .ok ()

def checkRevokedCertificate (revoked : RevokedCertificate) : Fallible Octets :=
  match revoked.extensions.find? fun ext => ext.critical && ext.oid ∉ ["2.5.29.21", "2.5.29.24"] with
  | some ext => .error (.parseError ("unrecognized critical CRL entry extension " ++ ext.oid))
  | none => .ok revoked.userCertificate

namespace CrlInfo

section

variable (libraries : Libraries) (algorithms : WebPkiSupportedAlgorithms)

def parseDer (crlDer : Octets) : Fallible CrlInfo := do
  match libraries.parseX509Crl crlDer with
  | .error e => throw (.parseError ("Failed to parse CRL DER: " ++ e))
  | .ok crl => do
    if crl.signatureAlgorithm ≠ crl.tbsSignature then
      throw (.parseError "CRL signatureAlgorithm differs from TBSCertList.signature")
    crl.extensions.forM checkCrlExtension
    let thisUpdate ← (asn1TimeToChrono crl.lastUpdate).elim
      (throw (.parseError "Invalid thisUpdate time in CRL")) pure
    let nextUpdate ← crl.nextUpdate.elim (pure none) fun time =>
      (asn1TimeToChrono time).elim (throw (.parseError "Invalid nextUpdate time in CRL")) (pure ∘ some)
    let revokedSerials ← crl.revokedCertificates.mapM checkRevokedCertificate
    return {
      issuer := crl.issuerText
      issuerRaw := crl.issuer
      thisUpdate
      nextUpdate
      revokedSerials
      signatureAlgorithm := crl.signatureAlgorithm.algorithm
      crlNumber := crl.crlNumber
      verifiedWith := none }

/-- The keyUsage of an issuer, if it has one, has to permit cRLSign. -/
def checkKeyUsage (issuer : X509Certificate) : Fallible Unit :=
  match issuer.keyUsage with
  | .ok (some usage) =>
    if usage.crlSign then .ok ()
    else .error (.invalidSignature ("keyUsage of " ++ issuer.subjectText ++ " does not permit cRLSign"))
  | .ok none => .ok ()
  | .error e => .error (.certificateError ("keyUsage of CRL issuer: " ++ e))

def verifyCrl (crl : CrlInfo) (spki crlDer : Octets) : Fallible Unit := do
  let signed ← splitSigned crlDer
  if !signed.trailing.isEmpty then
    throw (.parseError "unexpected data after CRL signature")
  match verifySignedData algorithms spki signed with
  | .error (.invalidSignature why) => throw (.invalidSignature ("CRL from " ++ crl.issuer ++ ": " ++ why))
  | .error other => throw other
  | .ok () => return ()

def checkSignature (crl : CrlInfo) (crlDer issuerDer : Octets) : Fallible Octets := do
  match libraries.parseX509Certificate issuerDer with
  | .error e => throw (.certificateError ("Failed to parse CRL issuer: " ++ e))
  | .ok issuer => do
    if issuer.subject ≠ crl.issuerRaw then
      throw (.invalidSignature ("CRL issuer " ++ crl.issuer ++ " is not the certificate issuer " ++ issuer.subjectText))
    checkKeyUsage issuer
    crl.verifyCrl algorithms issuer.spki crlDer
    return issuer.spki

def parseAndVerify (crlDer issuerDer : Octets) : Fallible CrlInfo := do
  let crl ← parseDer libraries crlDer
  let spki ← crl.checkSignature libraries algorithms crlDer issuerDer
  return { crl with verifiedWith := some spki }

end

def isVerifiedBy (crl : CrlInfo) (spkiDer : Octets) : Bool :=
  crl.verifiedWith == some spkiDer

def isRevoked (crl : CrlInfo) (serial : Octets) : Bool :=
  crl.revokedSerials.contains serial

def validateCurrent (libraries : Libraries) (crl : CrlInfo) (now : Int) : Fallible Unit :=
  if crl.thisUpdate > now then .error (.crlNotYetValid (libraries.toRfc3339 crl.thisUpdate))
  else
    match crl.nextUpdate with
    | some nextUpdate =>
      if nextUpdate ≤ now then .error (.crlExpired (libraries.toRfc3339 nextUpdate)) else .ok ()
    | none => .error (.crlExpired "absent (RFC 5280 §5.1.2.5 requires nextUpdate)")

end CrlInfo

def crlDerFromBytes (libraries : Libraries) (bytes : Octets) : Fallible Octets :=
  if (utf8 "-----BEGIN").isPrefixOf bytes then
    match libraries.parseX509Pem bytes with
    | .error e => .error (.parseError ("Failed to parse CRL PEM: " ++ e))
    | .ok contents => .ok contents
  else .ok bytes

/-- The bytes of a serial number as `{:02x?}` shows them. -/
def showSerial (serial : Octets) : String :=
  "[" ++ ", ".intercalate (serial.map fun octet => Hex.encode [octet]) ++ "]"

def revoked (serial : Octets) : RevocationError :=
  .certificateRevoked ("Certificate serial " ++ showSerial serial ++ " is revoked")

/-- Revoked or not, by a CRL that has been accepted. -/
def lookup (crl : CrlInfo) (serial : Octets) : Fallible Unit :=
  if crl.isRevoked serial then .error (revoked serial) else .ok ()

structure StaticCrl (libraries : Libraries) where
  path : String
  der : Octets
  info : CrlInfo
  parsed : CrlInfo.parseDer libraries der = .ok info

def loadStaticCrl (libraries : Libraries) (path : String) (file : Except String Octets) : Fallible (StaticCrl libraries) :=
  match file with
  | .error e => .error (.configError ("cannot read static CRL file " ++ path ++ ": " ++ e))
  | .ok bytes =>
    match crlDerFromBytes libraries bytes with
    | .error e => .error (.configError ("static CRL file " ++ path ++ ": " ++ e.display))
    | .ok der =>
      match parsed : CrlInfo.parseDer libraries der with
      | .error e => .error (.configError ("static CRL file " ++ path ++ ": " ++ e.display))
      | .ok info => .ok ⟨path, der, info, parsed⟩

end UsgRadius.Revocation
