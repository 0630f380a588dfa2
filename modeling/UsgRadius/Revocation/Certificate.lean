import UsgRadius.Revocation.Der

namespace UsgRadius.Revocation

open Data Der

/-! Certificates and CRLs as the X.509 library parses them. -/

/-- Seconds since 1970 of a time that `chrono` can represent; later ones are not
considered. -/
structure UnixTime where
  asSecs : Nat
  representable : asSecs ≤ 8210266876799
deriving DecidableEq

structure Extension where
  oid : String
  critical : Bool
deriving DecidableEq

structure KeyUsage where
  digitalSignature : Bool
  nonRepudiation : Bool
  crlSign : Bool
deriving DecidableEq

inductive GeneralName where
  | uri (uri : String)
  | other
deriving DecidableEq

inductive DistributionPointName where
  | fullName (names : List GeneralName)
  | nameRelativeToCRLIssuer
deriving DecidableEq

structure AccessDescription where
  accessMethod : String
  accessLocation : GeneralName
deriving DecidableEq

structure X509Certificate where
  /-- Names as encoded, and the subject as it is shown. -/
  subject : Octets
  issuer : Octets
  subjectText : String
  /-- The whole SubjectPublicKeyInfo, and the key alone. -/
  spki : Octets
  publicKey : Octets
  /-- Big-endian, without leading zeros but for zero itself. -/
  serial : Octets
  notBefore : Int
  notAfter : Int
  basicConstraints : Except String (Option Bool)
  keyUsage : Except String (Option KeyUsage)
  /-- Whether the purposes are there and include id-kp-OCSPSigning. -/
  extendedKeyUsage : Except String (Option Bool)
  extensions : List Extension
  crlDistributionPoints : Option (List (Option DistributionPointName))
  /-- One list for each such extension that can be read. -/
  authorityInfoAccess : List (List AccessDescription)
deriving DecidableEq

structure AlgorithmIdentifier where
  algorithm : String
  parameters : Option Octets
deriving DecidableEq

structure RevokedCertificate where
  userCertificate : Octets
  extensions : List Extension
deriving DecidableEq

structure X509Crl where
  issuer : Octets
  issuerText : String
  signatureAlgorithm : AlgorithmIdentifier
  tbsSignature : AlgorithmIdentifier
  extensions : List Extension
  lastUpdate : Int
  nextUpdate : Option Int
  crlNumber : Option Nat
  revokedCertificates : List RevokedCertificate
deriving DecidableEq

structure Libraries where
  parseX509Certificate : Octets → Except String X509Certificate
  parseX509Crl : Octets → Except String X509Crl
  parseX509Pem : Octets → Except String Octets
  sha256 : Octets → Block 32
  /-- The time a `%Y%m%d%H%M%S` text stands for, with or without a fraction. -/
  naiveTimestamp : String → Option Int
  toRfc3339 : Int → String

namespace X509Certificate

def isCa (cert : X509Certificate) : Bool :=
  match cert.basicConstraints with
  | .ok (some ca) => ca
  | _ => false

def hasOcspNocheck (cert : X509Certificate) : Bool :=
  cert.extensions.any fun ext => ext.oid == "1.3.6.1.5.5.7.48.1.5"

def isValidAt (cert : X509Certificate) (time : Int) : Bool :=
  cert.notBefore ≤ time && time ≤ cert.notAfter

end X509Certificate

section

variable (libraries : Libraries) (algorithms : WebPkiSupportedAlgorithms)

def signedWith (spki der : Octets) : Bool :=
  (splitSigned der >>= verifySignedData algorithms spki).isOk

/-- Name chaining and signature. -/
def isIssuedBy (certDer issuerDer : Octets) : Bool :=
  match libraries.parseX509Certificate certDer, libraries.parseX509Certificate issuerDer with
  | .ok cert, .ok issuer => cert.issuer == issuer.subject && signedWith algorithms issuer.spki certDer
  | _, _ => false

def extractIssuerAndSerial (certDer : Octets) : Fallible (Octets × Octets) :=
  match libraries.parseX509Certificate certDer with
  | .error e => .error (.certificateError ("Failed to parse certificate: " ++ e))
  | .ok cert => .ok (cert.issuer, cert.serial)

def subjectPublicKeyInfo (certDer : Octets) : Fallible Octets :=
  match libraries.parseX509Certificate certDer with
  | .error e => .error (.certificateError ("Failed to parse issuer certificate: " ++ e))
  | .ok cert => .ok cert.spki

def displaySubject (certDer : Octets) : String :=
  match libraries.parseX509Certificate certDer with
  | .error _ => "<unparseable certificate>"
  | .ok cert => cert.subjectText

def distributionPointUrls (points : List (Option DistributionPointName)) : List String :=
  points.flatMap fun point =>
    match point with
    | some (.fullName names) => names.filterMap fun name =>
      match name with
      | .uri uri => some uri
      | .other => none
    | _ => []

def extractCrlDistributionPoints (certDer : Octets) : Fallible (List String) :=
  match libraries.parseX509Certificate certDer with
  | .error e => .error (.certificateError ("Failed to parse certificate: " ++ e))
  | .ok cert =>
    match distributionPointUrls (cert.crlDistributionPoints.getD []) with
    | [] => .error (.distributionPointError "No CRL distribution points found in certificate")
    | urls => .ok urls

def extractOcspUrl (certDer : Octets) : Fallible String :=
  match libraries.parseX509Certificate certDer with
  | .error e => .error (.parseError ("Failed to parse certificate: " ++ e))
  | .ok cert =>
    let urls := cert.authorityInfoAccess.flatten.filterMap fun description =>
      match description with
      | ⟨"1.3.6.1.5.5.7.48.1", .uri uri⟩ => some uri
      | _ => none
    match urls with
    | [] => .error (.parseError "No OCSP URL found in certificate AIA extension")
    | url :: _ => .ok url

end

namespace Sample

/-- The key with the given number. -/
def spki (key : UInt8) : Octets :=
  [0x30, 6, 0x30, 0, 0x03, 2, 0, key]

/-- A certificate for the name and key of a subject, signed with the key of its
issuer. It is of a CA that may sign CRLs (1), of a CA that may not (2), of an
OCSP responder (3), or of an end entity. -/
def certificate (subject issuer key serial kind signer : UInt8) : Octets :=
  [0x30, 13, 0x30, 5, subject, issuer, key, serial, kind, 0x30, 0, 0x03, 2, 0, signer]

def readCertificate (subject issuer key serial kind : UInt8) : X509Certificate where
  subject := [subject]
  issuer := [issuer]
  subjectText := Hex.encode [subject]
  spki := spki key
  publicKey := [key]
  serial := [serial]
  notBefore := 0
  notAfter := 100
  basicConstraints := .ok (some (kind == 1 || kind == 2))
  keyUsage := .ok (if kind = 0 then none else some ⟨kind == 3, false, kind == 1⟩)
  extendedKeyUsage := .ok (some (kind == 3))
  extensions := []
  crlDistributionPoints := none
  authorityInfoAccess := [[⟨"1.3.6.1.5.5.7.48.1", .uri "http://ocsp"⟩]]

def epoch : UnixTime := ⟨0, by decide⟩

/-- A CRL of an issuer for the times from 0 to 100. -/
def crl (issuer number signer : UInt8) (revoked : List UInt8) : Octets :=
  [0x30, 10 + revoked.length.toUInt8, 0x30, 2 + revoked.length.toUInt8, issuer, number] ++ revoked ++
    [0x30, 0, 0x03, 2, 0, signer]

def libraries : Libraries where
  parseX509Certificate
    | [0x30, 13, 0x30, 5, subject, issuer, key, serial, kind, 0x30, 0, 0x03, 2, 0, _] =>
      .ok (readCertificate subject issuer key serial kind)
    | _ => .error "no certificate"
  parseX509Crl
    | 0x30 :: _ :: 0x30 :: length :: issuer :: number :: rest => .ok {
        issuer := [issuer]
        issuerText := Hex.encode [issuer]
        signatureAlgorithm := ⟨"1", none⟩
        tbsSignature := ⟨"1", none⟩
        extensions := []
        lastUpdate := 0
        nextUpdate := some 100
        crlNumber := some number.toNat
        revokedCertificates := (rest.take (length.toNat - 2)).map fun serial => ⟨[serial], []⟩ }
    | _ => .error "no CRL"
  parseX509Pem _ := .error "no PEM"
  sha256 data := .fill 32 data.sum
  naiveTimestamp text := some (utf8 text).length
  toRfc3339 _ := ""

/-- One algorithm, whose signatures are the keys they are made with. -/
def algorithms : WebPkiSupportedAlgorithms :=
  [⟨[], [], fun publicKey _ signature => publicKey == signature⟩]

end Sample

end UsgRadius.Revocation
