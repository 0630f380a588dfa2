import UsgRadius.Revocation.Caches
import UsgRadius.Revocation.Paths
import UsgRadius.Data.Interleaving

namespace UsgRadius.Revocation

open Data Program

/-! The verifier: every link of every path of a chain is checked against CRLs and
OCSP responses, as the mode says. The caches, the accepted CRL numbers and the
keys that static CRLs were verified with are shared by all handshakes. -/

inductive RevocationCheckMode where
  | crlOnly
  | ocspOnly
  | both
  | preferOcsp
  | disabled
deriving DecidableEq

inductive FallbackBehavior where
  | failOpen
  | failClosed
deriving DecidableEq

structure CrlConfig where
  enableHttpFetch : Bool
  cacheTtlSecs : Nat
  maxCacheEntries : Nat
deriving DecidableEq

structure OcspConfig where
  cacheTtlSecs : Nat
  maxCacheEntries : Nat
  enableNonce : Bool
deriving DecidableEq

structure RevocationConfig where
  checkMode : RevocationCheckMode
  fallbackBehavior : FallbackBehavior
  crlConfig : CrlConfig
  ocspConfig : OcspConfig
deriving DecidableEq

def modeUsesCrl (mode : RevocationCheckMode) : Bool :=
  mode == .crlOnly || mode == .preferOcsp || mode == .both

def modeUsesOcsp (mode : RevocationCheckMode) : Bool :=
  mode == .ocspOnly || mode == .preferOcsp || mode == .both

structure RevocationCheckingVerifier where
  libraries : Libraries
  algorithms : WebPkiSupportedAlgorithms
  config : RevocationConfig
  staticCrls : List (StaticCrl libraries)
  issuerCerts : List Octets

namespace RevocationCheckingVerifier

def crlFetcher (verifier : RevocationCheckingVerifier) : Bool :=
  modeUsesCrl verifier.config.checkMode && verifier.config.crlConfig.enableHttpFetch

end RevocationCheckingVerifier

inductive Source where
  | crl (crl : CrlInfo)
  | ocsp (response : OcspResponse)
deriving DecidableEq

/-- What a certificate is checked for: as a link of the chain, or as that of the
responder that signed the answer about a link. -/
inductive Role where
  | link
  | responder
deriving DecidableEq

/-- When a check is made, in which handshake, and for which certificate and issuer
a CRL is consulted. Only the time is looked at; the rest tells an observer what
belongs to which check. -/
structure Occasion extends UnixTime where
  handshake : Nat
  link : Octets × Octets
deriving DecidableEq

def Occasion.about (now : Occasion) (certDer issuerDer : Octets) : Occasion :=
  { now with link := (certDer, issuerDer) }

namespace RevocationCheckingVerifier

inductive Effect : Type → Type
  | cachedCrl (url : String) : Effect (Option CrlInfo)
  | cacheCrl (url : String) (crl : CrlInfo) : Effect Unit
  | cachedOcsp (key : Octets) : Effect (Option OcspResponse)
  | cacheOcsp (key : Octets) (response : OcspResponse) (now : Occasion) : Effect Unit
  /-- Under the lock of a static CRL: it is verified with the key already, or
  passes now. -/
  | verifyStatic (index : Nat) (issuerSpki : Octets) (verdict : Fallible Octets) : Effect (Fallible Unit)
  | recordCrlNumber (crl : CrlInfo) (issuerSpki : Octets) (now : Occasion) : Effect (Fallible Unit)
  | fetchCrl (url : String) : Effect (Fallible Octets)
  | queryOcsp (url : String) (request : Octets) : Effect (Fallible Octets)
  | randomNonce : Effect (Block 32)
  /-- An observer sees which accepted source answers for a certificate; nothing
  depends on it. -/
  | consulted (role : Role) (certDer : Octets) (source : Source) : Effect Unit

abbrev Action (Value : Type) := Program Effect RevocationError Value

section Checks

variable (verifier : RevocationCheckingVerifier)

def handleError (error : RevocationError) : Action Unit :=
  match verifier.config.fallbackBehavior with
  | .failOpen => return ()
  | .failClosed => fail error

/-- A revoked certificate is rejected, whatever the fallback. -/
def settle (status : Action Unit) : Action Unit := do
  match ← attempt status with
  | .ok () => return ()
  | .error (.certificateRevoked serial) => fail (.certificateRevoked serial)
  | .error reason => verifier.handleError reason

def acceptCrl (crl : CrlInfo) (issuerSpki : Octets) (now : Occasion) : Action Unit := do
  check (crl.validateCurrent verifier.libraries now.asSecs)
  check (← ask (.recordCrlNumber crl issuerSpki now))

def staticVerdict (crl : StaticCrl verifier.libraries) (issuerDer : Octets) : Fallible Octets :=
  match crl.info.checkSignature verifier.libraries verifier.algorithms crl.der issuerDer with
  | .error (.invalidSignature why) => .error (.invalidSignature ("static CRL file " ++ crl.path ++ ": " ++ why))
  | verdict => verdict

def acceptStaticCrl (index : Nat) (crl : StaticCrl verifier.libraries) (issuerDer issuerSpki : Octets)
    (now : Occasion) : Action Unit := do
  check (← ask (.verifyStatic index issuerSpki (verifier.staticVerdict crl issuerDer)))
  verifier.acceptCrl crl.info issuerSpki now

/-- A cached CRL of the same issuer and key that is still current and not stale. -/
def usableCachedCrl (url : String) (issuerName issuerSpki : Octets) (now : Occasion) : Action (Option CrlInfo) := do
  match ← ask (.cachedCrl url) with
  | none => return none
  | some crl =>
    if crl.isVerifiedBy issuerSpki && crl.issuerRaw == issuerName then
      match ← attempt (verifier.acceptCrl crl issuerSpki now) with
      | .ok () => return some crl
      | .error _ => return none
    else
      return none

def fetchAcceptedCrl (url : String) (issuerDer issuerSpki : Octets) (now : Occasion) : Action CrlInfo := do
  if verifier.crlFetcher then
    let bytes ← check (← ask (.fetchCrl url))
    let crlDer ← check (crlDerFromBytes verifier.libraries bytes)
    let crl ← check (CrlInfo.parseAndVerify verifier.libraries verifier.algorithms crlDer issuerDer)
    verifier.acceptCrl crl issuerSpki now
    return crl
  else
    fail (.fetchError "HTTP fetching is disabled")

structure Query where
  role : Role
  certDer : Octets
  issuerDer : Octets
  issuerName : Octets
  serial : Octets
  issuerSpki : Octets
  now : Occasion

def checkCrlFromUrl (query : Query) (url : String) : Action Unit := do
  match ← verifier.usableCachedCrl url query.issuerName query.issuerSpki query.now with
  | some crl => do
    ask (.consulted query.role query.certDer (.crl crl))
    check (lookup crl query.serial)
  | none => do
    let crl ← verifier.fetchAcceptedCrl url query.issuerDer query.issuerSpki query.now
    ask (.consulted query.role query.certDer (.crl crl))
    ask (.cacheCrl url crl)
    check (lookup crl query.serial)

def crlFromUrls (query : Query) (lastError : Option RevocationError) : List String → Action Unit
  | [] => fail (lastError.getD (.distributionPointError "No valid CRL found"))
  | url :: urls => do
    match ← attempt (verifier.checkCrlFromUrl query url) with
    | .ok () => return ()
    | .error (.certificateRevoked serial) => fail (.certificateRevoked serial)
    | .error reason => crlFromUrls query (some reason) urls

/-- The distribution points, after static CRLs that were of no use. -/
def crlFromDistributionPoints (query : Query) (lastError : Option RevocationError) : Action Unit :=
  if verifier.crlFetcher then
    match extractCrlDistributionPoints verifier.libraries query.certDer with
    | .error reason => fail (lastError.getD reason)
    | .ok urls => crlFromUrls verifier query lastError urls
  else
    fail (lastError.getD (.configError ("no static CRL configured for issuer " ++
      displaySubject verifier.libraries query.issuerDer ++ " and HTTP fetching is disabled")))

def crlFromStatic (query : Query) (lastError : Option RevocationError) :
    List (StaticCrl verifier.libraries × Nat) → Action Unit
  | [] => verifier.crlFromDistributionPoints query lastError
  | (crl, index) :: rest => do
    match ← attempt (verifier.acceptStaticCrl index crl query.issuerDer query.issuerSpki query.now) with
    | .ok () => do
      ask (.consulted query.role query.certDer (.crl crl.info))
      check (lookup crl.info query.serial)
    | .error reason => crlFromStatic query (some reason) rest

def staticCrlsOf (issuerName : Octets) : List (StaticCrl verifier.libraries × Nat) :=
  verifier.staticCrls.zipIdx.filter fun entry => entry.1.info.issuerRaw == issuerName

def crlStatus (role : Role) (certDer issuerDer : Octets) (now : Occasion) : Action Unit := do
  let (issuerName, serial) ← check (extractIssuerAndSerial verifier.libraries certDer)
  let issuerSpki ← check (subjectPublicKeyInfo verifier.libraries issuerDer)
  verifier.crlFromStatic ⟨role, certDer, issuerDer, issuerName, serial, issuerSpki,
    now.about certDer issuerDer⟩ none
    (verifier.staticCrlsOf issuerName)

def checkCrl (certDer issuerDer : Octets) (now : Occasion) : Action Unit :=
  verifier.settle (verifier.crlStatus .link certDer issuerDer now)

def checkOcspResponseStatus (response : OcspResponse) : Fallible Unit :=
  if response.status ≠ .successful then
    .error (.ocspError ("OCSP responder returned error status: " ++ response.status.debug))
  else
    match response.certStatus with
    | some .good => .ok ()
    | some (.revoked _ _) => .error (.certificateRevoked "Certificate revoked (OCSP)")
    | some .unknown => .error (.ocspError "OCSP responder returned 'unknown' status")
    | none => .error (.ocspError "OCSP response missing certificate status")

def checkResponderCertificate (responderDer issuerDer : Octets) (now : Occasion) : Action Unit := do
  if modeUsesCrl verifier.config.checkMode then
    match ← attempt (verifier.crlStatus .responder responderDer issuerDer now) with
    | .ok () => return ()
    | .error (.certificateRevoked _) => fail (.ocspError "OCSP responder certificate is revoked")
    | .error reason =>
      fail (.ocspError ("revocation status of the OCSP responder certificate is unknown: " ++ reason.display))
  else
    fail (.ocspError ("delegated OCSP responder certificate lacks id-pkix-ocsp-nocheck and no CRL " ++
      "source is configured to check it"))

/-- A response with a nonce has to echo ours; one without is not cached. -/
def checkNonce (sent got : Option Octets) : Fallible Bool :=
  match sent, got with
  | some sent, some got =>
    if sent ≠ got then .error (.ocspError "OCSP response nonce mismatch") else .ok true
  | some _, none => .ok false
  | none, _ => .ok true

/-- The responder's own status counts, unless its certificate says otherwise. -/
def checkAuthorization (authorization : ResponderAuthorization) (issuerDer : Octets) (now : Occasion) : Action Unit :=
  match authorization with
  | .delegated certificate false => verifier.checkResponderCertificate certificate issuerDer now
  | _ => return ()

def evaluateOcspResponse (responseDer : Octets) (certId : CertId) (issuerDer : Octets) (nonce : Option Octets)
    (now : Occasion) : Action (OcspResponse × Bool) := do
  let (response, authorization) ← check (OcspResponse.parseVerified verifier.libraries verifier.algorithms responseDer
    certId issuerDer now.toUnixTime verifier.config.ocspConfig.cacheTtlSecs)
  let cacheable ← check (checkNonce nonce response.nonce)
  verifier.checkAuthorization authorization issuerDer now
  return (response, cacheable)

def usableCachedResponse (certId : CertId) (now : Occasion) : Action (Option OcspResponse) := do
  match ← ask (.cachedOcsp certId.cacheKey) with
  | none => return none
  | some response =>
    return if response.isFreshAt now.asSecs &&
        response.isWithinMaxAge now.asSecs verifier.config.ocspConfig.cacheTtlSecs then some response
      else none

def drawNonce : Action (Option Octets) := do
  if verifier.config.ocspConfig.enableNonce then
    return some (← ask .randomNonce).octets
  else
    return none

def cacheIf (cacheable : Bool) (certId : CertId) (response : OcspResponse) (now : Occasion) : Action Unit :=
  if cacheable then ask (.cacheOcsp certId.cacheKey response now) else return ()

def queryStatus (certDer issuerDer : Octets) (builder : OcspRequestBuilder) (now : Occasion) : Action Unit := do
  let ocspUrl ← check (extractOcspUrl verifier.libraries certDer)
  let nonce ← verifier.drawNonce
  let request := (nonce.elim builder builder.withNonce).build
  let responseDer ← check (← ask (.queryOcsp ocspUrl request))
  let (response, cacheable) ← verifier.evaluateOcspResponse responseDer builder.certId issuerDer nonce now
  ask (.consulted .link certDer (.ocsp response))
  cacheIf cacheable builder.certId response now
  check (checkOcspResponseStatus response)

def ocspStatus (certDer issuerDer : Octets) (now : Occasion) : Action Unit := do
  if modeUsesOcsp verifier.config.checkMode then
    let builder ← check (OcspRequestBuilder.new verifier.libraries certDer issuerDer)
    match ← verifier.usableCachedResponse builder.certId now with
    | some response => do
      ask (.consulted .link certDer (.ocsp response))
      check (checkOcspResponseStatus response)
    | none => verifier.queryStatus certDer issuerDer builder now
  else
    fail (.configError "OCSP client not initialized")

def combine : Fallible Unit → Fallible Unit → Fallible Unit
  | .error (.certificateRevoked _), _ => .error (.certificateRevoked "Certificate revoked (OCSP)")
  | _, .error (.certificateRevoked _) => .error (.certificateRevoked "Certificate revoked (CRL)")
  | .ok (), .ok () => .ok ()
  | _, .error reason => .error reason
  | .error _, .ok () => .ok ()

def checkRevocation (certDer issuerDer : Octets) (now : Occasion) : Action Unit :=
  match verifier.config.checkMode with
  | .disabled => return ()
  | .ocspOnly => verifier.settle (verifier.ocspStatus certDer issuerDer now)
  | .crlOnly => verifier.checkCrl certDer issuerDer now
  | .preferOcsp => do
    match ← attempt (verifier.ocspStatus certDer issuerDer now) with
    | .ok () => return ()
    | .error (.certificateRevoked serial) => fail (.certificateRevoked serial)
    | .error _ => verifier.checkCrl certDer issuerDer now
  | .both => do
    let ocspResult ← attempt (verifier.ocspStatus certDer issuerDer now)
    let crlResult ← attempt (verifier.checkCrl certDer issuerDer now)
    check (combine ocspResult crlResult)

/-- The certificates of a path, each with its issuer. -/
def links (path : List Octets) : List (Octets × Octets) :=
  path.zip path.tail

def checkLinks (now : Occasion) (checked : List (Octets × Octets)) : List (Octets × Octets) → Action Unit
  | [] => return ()
  | pair :: pairs =>
    if pair ∈ checked then checkLinks now checked pairs
    else do
      verifier.checkRevocation pair.1 pair.2 now
      checkLinks now (checked ++ [pair]) pairs

def checkChain (endEntity : Octets) (intermediates : List Octets) (now : Occasion) : Action Unit :=
  if verifier.config.checkMode = .disabled then return ()
  else
    match buildPaths verifier.libraries verifier.algorithms verifier.issuerCerts endEntity intermediates
        now.toUnixTime with
    | .ok paths => verifier.checkLinks now [] (paths.flatMap links)
    | .error (.pathBudgetExceeded reason) => fail (.pathBudgetExceeded reason)
    | .error reason => verifier.handleError reason

end Checks

/-- What was accepted, and on which occasion. -/
inductive Accepted where
  /-- A CRL: whose, verified with which key, and its number. -/
  | crl (now : Occasion) (issuerRaw issuerSpki : Octets) (crlNumber : Option Nat)
  /-- An OCSP response, and the key it is cached under. -/
  | response (now : Occasion) (key : Octets) (response : OcspResponse)
deriving DecidableEq

structure World where
  clock : Nat
  /-- The key that each static CRL was verified with. -/
  verifiedWith : Nat → Option Octets
  crlNumbers : AList fun _ : Octets × Octets => Nat
  crlCache : CrlCache
  ocspCache : OcspCache
  /-- The CRLs and cached responses that were accepted, the latest first. -/
  accepted : List Accepted

def World.initial (clock : Nat) : World :=
  ⟨clock, fun _ => none, ∅, ∅, ∅, []⟩

def recordNumber (crl : CrlInfo) (issuerSpki : Octets) (numbers : AList fun _ : Octets × Octets => Nat) :
    Fallible Unit × AList fun _ : Octets × Octets => Nat :=
  match numbers.lookup (crl.issuerRaw, issuerSpki), crl.crlNumber with
  | some seen, some number =>
    if number < seen then
      (.error (.staleCrl ("crlNumber " ++ toString number ++ " from " ++ crl.issuer ++
        " is lower than the accepted " ++ toString seen)), numbers)
    else if number > seen then (.ok (), numbers.insert (crl.issuerRaw, issuerSpki) number)
    else (.ok (), numbers)
  | some seen, none =>
    (.error (.staleCrl ("CRL from " ++ crl.issuer ++ " has no crlNumber after crlNumber " ++ toString seen ++
      " was accepted")), numbers)
  | none, some number => (.ok (), numbers.insert (crl.issuerRaw, issuerSpki) number)
  | none, none => (.ok (), numbers)

/-- The times that the clocks show, the order in which a cache is gone through,
and what comes from outside. -/
structure Around where
  now : Nat
  wallClock : Nat
  visitedCrls : List ((_ : String) × Cached CrlInfo)
  visitedResponses : List ((_ : Octets) × Cached OcspResponse)
  fetched : Fallible Octets
  nonce : Block 32

def perform (verifier : RevocationCheckingVerifier) (around : Around) :
    (Answer : Type) → Effect Answer → World → Answer × World
  | _, .cachedCrl url, world =>
    let (found, cache) := CrlCache.get around.now url world.crlCache
    (found, { world with clock := around.now, crlCache := cache })
  | _, .cacheCrl url crl, world =>
    ((), { world with
      clock := around.now
      crlCache := CrlCache.insert around.visitedCrls around.now (max verifier.config.crlConfig.maxCacheEntries 1)
        url crl verifier.config.crlConfig.cacheTtlSecs world.crlCache })
  | _, .cachedOcsp key, world =>
    let (found, cache) := OcspCache.get around.now around.wallClock key world.ocspCache
    (found, { world with clock := around.now, ocspCache := cache })
  | _, .cacheOcsp key response now, world =>
    ((), { world with
      clock := around.now
      accepted := .response now key response :: world.accepted
      ocspCache := OcspCache.insert around.visitedResponses around.now around.wallClock
        (max verifier.config.ocspConfig.maxCacheEntries 1) verifier.config.ocspConfig.cacheTtlSecs key response
        world.ocspCache })
  | _, .verifyStatic index issuerSpki verdict, world =>
    if world.verifiedWith index = some issuerSpki then (.ok (), world)
    else
      match verdict with
      | .ok _ => (.ok (), { world with verifiedWith := Function.update world.verifiedWith index (some issuerSpki) })
      | .error reason => (.error reason, world)
  | _, .recordCrlNumber crl issuerSpki now, world =>
    match recordNumber crl issuerSpki world.crlNumbers with
    | (.ok (), numbers) => (.ok (), { world with
        crlNumbers := numbers
        accepted := .crl now crl.issuerRaw issuerSpki crl.crlNumber :: world.accepted })
    | (.error reason, numbers) => (.error reason, { world with crlNumbers := numbers })
  | _, .fetchCrl _, world => (around.fetched, world)
  | _, .queryOcsp _ _, world => (around.fetched, world)
  | _, .randomNonce, world => (around.nonce, world)
  | _, .consulted _ _ _, world => ((), world)

/-- The clock does not go back, and a cache is gone through in some order. -/
def Performs (verifier : RevocationCheckingVerifier) : Program.Semantics Effect World :=
  fun Answer effect world answer after => ∃ around : Around, world.clock ≤ around.now ∧
    around.visitedCrls.Perm world.crlCache.entries ∧ around.visitedResponses.Perm world.ocspCache.entries ∧
    (answer, after) = verifier.perform around Answer effect world

/-- A clock that only goes on, caches gone through in the order they are in. -/
def performIn (verifier : RevocationCheckingVerifier) (around : Around) (Answer : Type) (effect : Effect Answer)
    (world : World) : Answer × World :=
  verifier.perform { around with
    now := world.clock + around.now
    visitedCrls := world.crlCache.entries
    visitedResponses := world.ocspCache.entries } Answer effect world

theorem performIn_performs {verifier : RevocationCheckingVerifier} (around : Around) (Answer : Type)
    (effect : Effect Answer) (world : World) :
    Performs verifier Answer effect world (verifier.performIn around Answer effect world).1
      (verifier.performIn around Answer effect world).2 :=
  ⟨_, Nat.le_add_right _ _, .refl _, .refl _, rfl⟩

end RevocationCheckingVerifier

end UsgRadius.Revocation
