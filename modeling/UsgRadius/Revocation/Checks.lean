import UsgRadius.Revocation.Evidence
import UsgRadius.Revocation.PathBuilding

namespace UsgRadius.Revocation

open Data Program Discipline OcspRequestBuilder Assures CrlInfo

variable {maxAge : Nat}

/-! What each check has behind it when it succeeds, up to the whole chain when
checks fail closed. -/

theorem lookup_eq_ok {crl : CrlInfo} {serial : Octets} : lookup crl serial = .ok () ↔ serial ∉ crl.revokedSerials := by
  simp [lookup, isRevoked]

section Signer

variable {libraries : Libraries} {algorithms : WebPkiSupportedAlgorithms} {issuerDer : Octets}
  {basic : BasicOcspResponse} {now : Int} {authorization : ResponderAuthorization}

theorem delegatedResponderProblem_eq_none {responder : X509Certificate} {responderDer : Octets}
    (qualified : delegatedResponderProblem libraries algorithms responder responderDer issuerDer now = none) :
    isIssuedBy libraries algorithms responderDer issuerDer = true ∧ responder.extendedKeyUsage = .ok (some true) ∧
      responder.isValidAt now = true := by
  unfold delegatedResponderProblem at qualified
  split at qualified
  · cases qualified
  · rename_i issued
    split at qualified
    · cases qualified
    · rename_i purpose
      split at qualified
      · cases qualified
      · split at qualified
        · cases qualified
        · split at qualified
          · cases qualified
          · split at qualified
            · cases qualified
            · rename_i valid
              simp only [Bool.not_eq_true', Bool.not_eq_false] at issued valid
              exact ⟨issued, Results.eq_ok_of_toOption (not_not.mp purpose), valid⟩

theorem authorizeDelegate_eq_ok {disqualified : Option RevocationError} {certs : List Octets}
    (authorized : basic.authorizeDelegate libraries algorithms issuerDer now disqualified certs = .ok authorization) :
    ∃ delegateDer ∈ certs, ∃ delegate, libraries.parseX509Certificate delegateDer = .ok delegate ∧
      verifySignedData algorithms delegate.spki basic.signedData = .ok () ∧
      delegatedResponderProblem libraries algorithms delegate delegateDer issuerDer now = none ∧
      authorization = .delegated delegateDer delegate.hasOcspNocheck := by
  induction certs generalizing disqualified with
  | nil => cases authorized
  | cons certDer certs ih =>
    have later (rest : ∃ disqualified, basic.authorizeDelegate libraries algorithms issuerDer now disqualified certs =
        .ok authorization) : ∃ delegateDer ∈ certDer :: certs, ∃ delegate,
        libraries.parseX509Certificate delegateDer = .ok delegate ∧
        verifySignedData algorithms delegate.spki basic.signedData = .ok () ∧
        delegatedResponderProblem libraries algorithms delegate delegateDer issuerDer now = none ∧
        authorization = .delegated delegateDer delegate.hasOcspNocheck := by
      grind
    unfold BasicOcspResponse.authorizeDelegate at authorized
    split at authorized
    · exact later ⟨_, authorized⟩
    · rename_i responder read
      split at authorized
      · exact later ⟨_, authorized⟩
      · rename_i signs
        split at authorized
        · rename_i qualified
          cases authorized
          simp only [Bool.or_eq_true, Bool.not_eq_true', not_or, Bool.not_eq_false] at signs
          obtain ⟨_, verified⟩ := Results.exists_of_isOk signs.2
          exact ⟨certDer, List.mem_cons_self, responder, read, verified, qualified, rfl⟩
        · exact later ⟨_, authorized⟩

theorem authorizeSigner_eq_ok {now : UnixTime}
    (authorized : basic.authorizeSigner libraries algorithms issuerDer now = .ok authorization) :
    (authorization = .issuer ∧ ∃ issuer, libraries.parseX509Certificate issuerDer = .ok issuer ∧
      verifySignedData algorithms issuer.spki basic.signedData = .ok ()) ∨
    ∃ delegateDer ∈ basic.certs, ∃ delegate, libraries.parseX509Certificate delegateDer = .ok delegate ∧
      verifySignedData algorithms delegate.spki basic.signedData = .ok () ∧
      delegatedResponderProblem libraries algorithms delegate delegateDer issuerDer now.asSecs = none ∧
      authorization = .delegated delegateDer delegate.hasOcspNocheck := by
  unfold BasicOcspResponse.authorizeSigner at authorized
  split at authorized
  · cases authorized
  · rename_i issuer read
    split at authorized
    · rename_i signs
      cases authorized
      obtain ⟨_, verified⟩ := Results.exists_of_isOk (Bool.and_eq_true_iff.mp signs).2
      exact .inl ⟨rfl, issuer, read, verified⟩
    · split at authorized
      · cases authorized
      · exact .inr (authorizeDelegate_eq_ok authorized)

theorem OcspResponse.parseVerified_eq_ok {derBytes : Octets} {request : CertId} {now : UnixTime}
    {response : OcspResponse} :
    OcspResponse.parseVerified libraries algorithms derBytes request issuerDer now maxAge = .ok (response, authorization) ↔
    ∃ basicDer basic single, parseOuter derBytes = .ok (response.status, some basicDer) ∧
      BasicOcspResponse.parse libraries basicDer = .ok basic ∧
      basic.responses.find? (fun single => single.certId == request) = some single ∧
      basic.authorizeSigner libraries algorithms issuerDer now = .ok authorization ∧
      response = .fromSingle response.status basic single derBytes ∧
      response.isFreshAt now.asSecs = true ∧ response.isWithinMaxAge now.asSecs maxAge = true := by
  unfold parseVerified
  rw [Results.bind_eq_ok]
  refine ⟨?_, ?_⟩
  · intro ⟨⟨status, bytes⟩, outer, rest⟩
    cases bytes with
    | none => cases rest
    | some basicDer =>
      obtain ⟨basic, parsed, rest⟩ := Results.bind_eq_ok.mp rest
      cases found : basic.responses.find? fun single => single.certId == request with
      | none => simp [found] at rest
      | some single =>
        simp only [found] at rest
        obtain ⟨signer, authorized, rest⟩ := Results.bind_eq_ok.mp rest
        split at rest
        · cases rest
        · rename_i fresh
          split at rest
          · cases rest
          · rename_i recent
            cases rest
            simp only [Bool.not_eq_true', Bool.not_eq_false] at fresh recent
            exact ⟨basicDer, basic, single, outer, parsed, found, authorized, rfl, fresh, recent⟩
  · intro ⟨basicDer, basic, single, outer, parsed, found, authorized, same, fresh, recent⟩
    refine ⟨_, outer, ?_⟩
    simp only [parsed, Results.ok_bind, found, authorized, ← same, fresh, recent, Bool.not_true, Bool.false_eq_true,
      if_false, Results.pure_eq]

end Signer

namespace RevocationCheckingVerifier

variable {verifier : RevocationCheckingVerifier} {world : World} {now : Occasion} {certDer issuerDer : Octets}
  {cert issuer : X509Certificate} {index : Nat} {crl : StaticCrl verifier.libraries}
  {accepted before after : List Accepted}

theorem acceptCrl_ensures (crl : CrlInfo) (issuerSpki : Octets) :
    (discipline verifier).Ensures
      (fun after _ => (crl.thisUpdate ≤ now.asSecs ∧ ∃ nextUpdate, crl.nextUpdate = some nextUpdate ∧
        now.asSecs < nextUpdate) ∧ Recorded after.accepted now crl.issuerRaw issuerSpki crl.crlNumber)
      (verifier.acceptCrl crl issuerSpki now) world := by
  apply Ensures.check_bind
  intro _ valid
  exact ask trivial fun last _ result told =>
    Ensures.check fun _ passed => ⟨validateCurrent_eq_ok.mp valid, told passed⟩

theorem signedStatic_of_verdict (held : verifier.staticCrls[index]? = some crl)
    (readIssuer : verifier.libraries.parseX509Certificate issuerDer = .ok issuer)
    (passed : (verifier.staticVerdict crl issuerDer).isOk = true) : SignedStatic verifier index issuer.spki := by
  obtain ⟨spki, verdict⟩ := Results.exists_of_isOk passed
  have verified : crl.info.checkSignature verifier.libraries verifier.algorithms crl.der issuerDer = .ok spki := by
    unfold staticVerdict at verdict
    split at verdict
    · cases verdict
    · exact verdict
  obtain ⟨other, readOther, _, _, signed, _⟩ := checkSignature_eq_ok.mp verified
  cases readIssuer.symm.trans readOther
  intro same heldSame
  cases held.symm.trans heldSame
  exact signed

theorem acceptStaticCrl_ensures (held : verifier.staticCrls[index]? = some crl)
    (readIssuer : verifier.libraries.parseX509Certificate issuerDer = .ok issuer)
    (named : crl.info.issuerRaw = issuer.subject) :
    (discipline verifier).Ensures (fun after _ => Serves verifier after.accepted issuer now crl.der crl.info)
      (verifier.acceptStaticCrl index crl issuerDer issuer.spki now) world := by
  refine ask (signedStatic_of_verdict held readIssuer) ?_
  intro after _ result told
  apply Ensures.check_bind
  intro _ passed
  refine (acceptCrl_ensures crl.info issuer.spki).mono ?_
  intro last _ _ accepted
  exact ⟨crl.parsed, named, signedWith_of_verifyCrl (told passed crl held), accepted.1, accepted.2⟩

def ServesFetched (verifier : RevocationCheckingVerifier) (accepted : List Accepted) (issuer : X509Certificate)
    (now : Occasion) (crl : CrlInfo) : Prop :=
  ∃ crlDer parsed, Serves verifier accepted issuer now crlDer parsed ∧
    crl = { parsed with verifiedWith := some issuer.spki }

theorem usableCachedCrl_ensures (url : String) :
    (discipline verifier).Ensures
      (fun after found => ∀ crl, found = some crl → ServesFetched verifier after.accepted issuer now crl)
      (verifier.usableCachedCrl url issuer.subject issuer.spki now) world := by
  refine ask trivial ?_
  intro after _ found told
  cases found with
  | none => exact Ensures.pure nofun
  | some crl =>
    simp only
    split
    · rename_i suits
      simp only [isVerifiedBy, Bool.and_eq_true, beq_iff_eq] at suits
      obtain ⟨crlDer, parsed, spki, _, read, isParsed, signed⟩ := told crl rfl
      subst isParsed
      obtain ⟨sameKey, named⟩ := suits
      cases sameKey
      apply Ensures.attempt (acceptCrl_ensures _ issuer.spki)
      intro last _ result accepted
      cases result with
      | error reason => exact .pure nofun
      | ok value =>
        apply Ensures.pure
        intro same isSame
        cases isSame
        obtain ⟨current, recorded⟩ := accepted () rfl
        exact ⟨crlDer, parsed,
          ⟨read, named, signedWith_of_verifyCrl signed, current, recorded⟩, rfl⟩
    · exact Ensures.pure nofun

theorem fetchAcceptedCrl_ensures (url : String) (readIssuer : verifier.libraries.parseX509Certificate issuerDer = .ok issuer) :
    (discipline verifier).Ensures
      (fun after crl => ServesFetched verifier after.accepted issuer now crl ∧ VerifiedCrl verifier crl)
      (verifier.fetchAcceptedCrl url issuerDer issuer.spki now) world := by
  unfold fetchAcceptedCrl
  split
  · rename_i fetches
    refine ask trivial ?_
    intro asked _ fetched _
    apply Ensures.check_bind
    intro bytes _
    apply Ensures.check_bind
    intro crlDer _
    apply Ensures.check_bind
    intro crl verified
    obtain ⟨parsed, spki, read, signature, rfl⟩ := parseAndVerify_eq_ok.mp verified
    obtain ⟨other, readOther, named, _, signed, rfl⟩ := checkSignature_eq_ok.mp signature
    cases readIssuer.symm.trans readOther
    apply Ensures.bind (acceptCrl_ensures _ _)
    intro last _ _ accepted
    exact .pure ⟨⟨crlDer, parsed,
      ⟨read, named.symm, signedWith_of_verifyCrl signed, accepted.1, accepted.2⟩, rfl⟩,
      crlDer, parsed, issuer.spki, fetches, read, rfl, signed⟩
  · exact .fail

structure Query.Suits (libraries : Libraries) (query : Query) (cert issuer : X509Certificate) : Prop where
  readCert : libraries.parseX509Certificate query.certDer = .ok cert
  readIssuer : libraries.parseX509Certificate query.issuerDer = .ok issuer
  issuerName : query.issuerName = issuer.subject
  serial : query.serial = cert.serial
  issuerSpki : query.issuerSpki = issuer.spki
  now : query.now.about query.certDer query.issuerDer = query.now

section Queries

variable {query : Query} (suits : query.Suits verifier.libraries cert issuer)
include suits

theorem lookup_evidence {crlDer : Octets} {crl parsed : CrlInfo}
    (serves : Serves verifier accepted issuer query.now crlDer parsed)
    (same : crl.revokedSerials = parsed.revokedSerials) (unlisted : lookup crl query.serial = .ok ()) :
    CrlEvidence verifier accepted query.certDer query.issuerDer query.now := by
  rw [lookup_eq_ok, same, suits.serial] at unlisted
  exact ⟨cert, issuer, crlDer, parsed, suits.readCert, suits.readIssuer, suits.now.symm ▸ serves, unlisted⟩

theorem checkCrlFromUrl_ensures (url : String) :
    (discipline verifier).Ensures
      (fun after _ => CrlEvidence verifier after.accepted query.certDer query.issuerDer query.now)
      (verifier.checkCrlFromUrl query url) world := by
  unfold checkCrlFromUrl
  rw [suits.issuerName, suits.issuerSpki]
  apply Ensures.bind (usableCachedCrl_ensures url)
  intro after _ found usable
  cases found with
  | some crl =>
    obtain ⟨crlDer, parsed, serves, isParsed⟩ := usable crl rfl
    refine ask trivial fun last moved _ _ => Ensures.check fun _ unlisted => ?_
    exact (lookup_evidence suits serves (by rw [isParsed]) unlisted).later moved
  | none =>
    apply Ensures.bind (fetchAcceptedCrl_ensures url suits.readIssuer)
    intro fetched _ crl served
    obtain ⟨⟨crlDer, parsed, serves, isParsed⟩, verified⟩ := served
    refine ask trivial fun noted moved _ _ => ask verified fun last further _ _ =>
      Ensures.check fun _ unlisted => ?_
    exact (lookup_evidence suits serves (by rw [isParsed]) unlisted).later (moved.trans further)

theorem crlFromUrls_ensures (lastError : Option RevocationError) (urls : List String) :
    (discipline verifier).Ensures
      (fun after _ => CrlEvidence verifier after.accepted query.certDer query.issuerDer query.now)
      (verifier.crlFromUrls query lastError urls) world := by
  induction urls generalizing lastError world with
  | nil => exact .fail
  | cons url urls ih =>
    apply Ensures.attempt (checkCrlFromUrl_ensures suits url)
    intro after _ result evidence
    split
    · exact .pure (evidence () rfl)
    · exact .fail
    · exact ih _

theorem crlFromDistributionPoints_ensures (lastError : Option RevocationError) :
    (discipline verifier).Ensures
      (fun after _ => CrlEvidence verifier after.accepted query.certDer query.issuerDer query.now)
      (verifier.crlFromDistributionPoints query lastError) world := by
  unfold crlFromDistributionPoints
  split
  · split
    · exact .fail
    · exact crlFromUrls_ensures suits lastError _
  · exact .fail

theorem crlFromStatic_ensures (lastError : Option RevocationError) (crls : List (StaticCrl verifier.libraries × Nat))
    (held : ∀ entry ∈ crls, verifier.staticCrls[entry.2]? = some entry.1 ∧ entry.1.info.issuerRaw = issuer.subject) :
    (discipline verifier).Ensures
      (fun after _ => CrlEvidence verifier after.accepted query.certDer query.issuerDer query.now)
      (verifier.crlFromStatic query lastError crls) world := by
  induction crls generalizing lastError world with
  | nil => exact crlFromDistributionPoints_ensures suits lastError
  | cons entry crls ih =>
    obtain ⟨crl, index⟩ := entry
    obtain ⟨own, named⟩ := held _ List.mem_cons_self
    unfold crlFromStatic
    rw [suits.issuerSpki]
    apply Ensures.attempt (acceptStaticCrl_ensures own suits.readIssuer named)
    intro after _ result serves
    cases result with
    | error reason => exact ih _ fun other member => held other (List.mem_cons_of_mem _ member)
    | ok value =>
      refine ask trivial fun last moved _ _ => Ensures.check fun _ unlisted => ?_
      exact (lookup_evidence suits (serves () rfl) rfl unlisted).later moved

end Queries

variable {libraries : Libraries}

theorem isIssuedBy_eq_true {algorithms : WebPkiSupportedAlgorithms}
    (issued : isIssuedBy libraries algorithms certDer issuerDer = true) :
    ∃ cert issuer, libraries.parseX509Certificate certDer = .ok cert ∧
      libraries.parseX509Certificate issuerDer = .ok issuer ∧ cert.issuer = issuer.subject := by
  unfold isIssuedBy at issued
  split at issued
  · grind
  · cases issued

theorem crlStatus_ensures (role : Role)
    (issued : isIssuedBy verifier.libraries verifier.algorithms certDer issuerDer = true) :
    (discipline verifier).Ensures (fun after _ => CrlEvidence verifier after.accepted certDer issuerDer now)
      (verifier.crlStatus role certDer issuerDer now) world := by
  obtain ⟨cert, issuer, readCert, readIssuer, named⟩ := isIssuedBy_eq_true issued
  apply Ensures.check_bind
  intro names extracted
  rw [extractIssuerAndSerial, readCert] at extracted
  cases extracted
  apply Ensures.check_bind
  intro spki extracted
  rw [subjectPublicKeyInfo, readIssuer] at extracted
  cases extracted
  have suits : Query.Suits verifier.libraries ⟨role, certDer, issuerDer, cert.issuer, cert.serial, issuer.spki,
      now.about certDer issuerDer⟩ cert issuer := ⟨readCert, readIssuer, named, rfl, rfl, rfl⟩
  refine crlFromStatic_ensures suits none _ fun entry member => ?_
  obtain ⟨place, same⟩ := List.mem_filter.mp member
  exact ⟨List.mem_zipIdx_iff_getElem?.mp place, named ▸ beq_iff_eq.mp same⟩

variable {response : OcspResponse}

theorem checkOcspResponseStatus_eq_ok (passed : checkOcspResponseStatus response = .ok ()) :
    response.status = .successful ∧ response.certStatus = some .good := by
  unfold checkOcspResponseStatus at passed
  split at passed
  · cases passed
  · grind

variable {basic : BasicOcspResponse} {single : SingleResponse}

theorem fresh_of_response (same : response = .fromSingle response.status basic single response.rawBytes)
    (fresh : response.isFreshAt now.asSecs = true) (recent : response.isWithinMaxAge now.asSecs maxAge = true) :
    single.Fresh now.toUnixTime maxAge := by
  rw [same] at fresh recent
  exact SingleResponse.fresh_iff.mpr ⟨fresh, recent⟩

variable {builder otherBuilder : OcspRequestBuilder}

theorem hash_lengths (made : new libraries certDer issuerDer = .ok builder) :
    builder.issuerKeyHash.length = 32 ∧ builder.issuerNameHash.length = 32 := by
  unfold new at made
  split at made
  · cases made
  · split at made
    · cases made
    · cases made
      exact ⟨Block.size _, Block.size _⟩

variable {otherCert otherIssuer : Octets}

theorem certId_eq_of_cacheKey (made : new libraries certDer issuerDer = .ok builder)
    (otherMade : new libraries otherCert otherIssuer = .ok otherBuilder)
    (same : builder.certId.cacheKey = otherBuilder.certId.cacheKey) : otherBuilder.certId = builder.certId := by
  obtain ⟨keyLength, nameLength⟩ := hash_lengths made
  obtain ⟨otherKeyLength, otherNameLength⟩ := hash_lengths otherMade
  obtain ⟨hashes, serials⟩ := List.append_inj same (by
    rw [List.length_append, List.length_append]
    exact congrArg₂ _ (keyLength.trans otherKeyLength.symm) (nameLength.trans otherNameLength.symm))
  obtain ⟨keys, names⟩ := List.append_inj hashes (keyLength.trans otherKeyLength.symm)
  simp only [certId] at keys names serials ⊢
  rw [keys, names, serials]

theorem checkResponderCertificate_ensures
    (issued : isIssuedBy verifier.libraries verifier.algorithms certDer issuerDer = true) :
    (discipline verifier).Ensures (fun after _ => CrlEvidence verifier after.accepted certDer issuerDer now)
      (verifier.checkResponderCertificate certDer issuerDer now) world := by
  unfold checkResponderCertificate
  split
  · apply Ensures.attempt (crlStatus_ensures .responder issued)
    intro after _ result evidence
    split
    · exact .pure (evidence () rfl)
    · exact .fail
    · exact .fail
  · exact .fail

theorem checkAuthorization_ensures {authorization : ResponderAuthorization}
    (signer : basic.authorizeSigner verifier.libraries verifier.algorithms issuerDer now.toUnixTime = .ok authorization) :
    (discipline verifier).Ensures (fun after _ => Authorized verifier after.accepted issuerDer now basic)
      (verifier.checkAuthorization authorization issuerDer now) world := by
  rcases authorizeSigner_eq_ok signer with ⟨rfl, own⟩ | ⟨delegateDer, member, delegate, read, signed, qualified, rfl⟩
  · exact .pure (.inl own)
  · obtain ⟨issued, purpose, valid⟩ := delegatedResponderProblem_eq_none qualified
    cases nocheck : delegate.hasOcspNocheck with
    | true => exact .pure (.inr ⟨delegateDer, member, delegate, ⟨read, issued, purpose, valid, .inl nocheck⟩, signed⟩)
    | false =>
      apply (checkResponderCertificate_ensures issued).mono
      intro after _ _ evidence
      exact .inr ⟨delegateDer, member, delegate, ⟨read, issued, purpose, valid, .inr evidence⟩, signed⟩

theorem evaluateOcspResponse_ensures (responseDer : Octets) (certId : CertId) (nonce : Option Octets) :
    (discipline verifier).Ensures
      (fun after value => ∃ basicDer basic single,
        Attests verifier after.accepted issuerDer now certId basicDer basic single value.1 ∧
          single.Fresh now.toUnixTime verifier.config.ocspConfig.cacheTtlSecs)
      (verifier.evaluateOcspResponse responseDer certId issuerDer nonce now) world := by
  apply Ensures.check_bind
  intro answer verified
  obtain ⟨response, authorization⟩ := answer
  obtain ⟨basicDer, basic, single, outer, parsed, found, signer, same, fresh, recent⟩ :=
    OcspResponse.parseVerified_eq_ok.mp verified
  have bytes : response.rawBytes = responseDer := by rw [same]; rfl
  rw [← bytes] at outer same
  apply Ensures.check_bind
  intro cacheable _
  apply Ensures.bind (checkAuthorization_ensures signer)
  intro after _ _ authorized
  have about := List.find?_some found
  exact .pure ⟨basicDer, basic, single, ⟨outer, parsed, List.mem_of_find?_eq_some found, beq_iff_eq.mp about,
    same, authorized⟩, fresh_of_response same fresh recent⟩

theorem Attests.evidence {basicDer : Octets} {time : Occasion}
    (made : new verifier.libraries certDer issuerDer = .ok builder)
    (otherMade : new verifier.libraries otherCert otherIssuer = .ok otherBuilder)
    (named : otherBuilder.certId = builder.certId)
    (whence : time = now ∧ otherIssuer = issuerDer ∨ .response time builder.certId.cacheKey response ∈ accepted)
    (attests : Attests verifier accepted otherIssuer time builder.certId basicDer basic single response)
    (fresh : single.Fresh now.toUnixTime verifier.config.ocspConfig.cacheTtlSecs)
    (passed : checkOcspResponseStatus response = .ok ()) : OcspEvidence verifier accepted certDer issuerDer now := by
  obtain ⟨successful, good⟩ := checkOcspResponseStatus_eq_ok passed
  rw [attests.same] at good
  exact ⟨builder, otherCert, otherIssuer, otherBuilder, time, basicDer, basic, single, response, made, otherMade, named,
    whence, attests, successful, Option.some.inj good, fresh⟩

theorem usableCachedResponse_ensures (made : new verifier.libraries certDer issuerDer = .ok builder) :
    (discipline verifier).Ensures
      (fun after found => ∀ response, found = some response →
        ∃ otherCert otherIssuer otherBuilder time basicDer basic single,
          new verifier.libraries otherCert otherIssuer = .ok otherBuilder ∧
          otherBuilder.certId = builder.certId ∧ .response time builder.certId.cacheKey response ∈ after.accepted ∧
          Attests verifier after.accepted otherIssuer time builder.certId basicDer basic single response ∧
          single.Fresh now.toUnixTime verifier.config.ocspConfig.cacheTtlSecs)
      (verifier.usableCachedResponse builder.certId now) world := by
  refine ask trivial fun after _ found told => ?_
  cases found with
  | none => exact Ensures.pure nofun
  | some response =>
    apply Ensures.pure
    intro same isSame
    split at isSame
    · rename_i usable
      cases isSame
      obtain ⟨fresh, recent⟩ := Bool.and_eq_true_iff.mp usable
      obtain ⟨time, logged, otherCert, otherIssuer, otherBuilder, basicDer, basic, single, otherMade, keyed, attests⟩ :=
        told response rfl
      have named := certId_eq_of_cacheKey made otherMade keyed
      exact ⟨otherCert, otherIssuer, otherBuilder, time, basicDer, basic, single, otherMade, named,
        logged, named ▸ attests, fresh_of_response attests.same fresh recent⟩
    · cases isSame

theorem drawNonce_ensures : (discipline verifier).Ensures (fun _ _ => True) verifier.drawNonce world := by
  unfold drawNonce
  split
  · exact ask trivial fun _ _ _ _ => Ensures.pure trivial
  · exact .pure trivial

theorem queryStatus_ensures (made : new verifier.libraries certDer issuerDer = .ok builder) :
    (discipline verifier).Ensures (fun after _ => OcspEvidence verifier after.accepted certDer issuerDer now)
      (verifier.queryStatus certDer issuerDer builder now) world := by
  apply Ensures.check_bind
  intro url _
  apply Ensures.bind drawNonce_ensures
  intro _ _ nonce _
  refine ask trivial fun _ _ fetched _ => ?_
  apply Ensures.check_bind
  intro responseDer _
  apply Ensures.bind (evaluateOcspResponse_ensures responseDer builder.certId nonce)
  intro evaluated _ answer attested
  obtain ⟨response, cacheable⟩ := answer
  obtain ⟨basicDer, basic, single, attests, fresh⟩ := attested
  refine ask trivial fun noted moved _ _ => ?_
  have ends {last : World} (further : noted.accepted <:+ last.accepted) :
      (discipline verifier).Ensures (fun after _ => OcspEvidence verifier after.accepted certDer issuerDer now)
        (check (checkOcspResponseStatus response)) last := by
    apply Ensures.check
    intro _ passed
    exact ((attests.later (moved.trans further))).evidence made made rfl (.inl ⟨rfl, rfl⟩) fresh passed
  cases cacheable with
  | false => exact ends List.suffix_rfl
  | true =>
    refine ask ?_ fun last further _ _ => ends further
    exact ⟨certDer, issuerDer, builder, basicDer, basic, single, made, rfl, attests.later moved⟩

theorem ocspStatus_ensures :
    (discipline verifier).Ensures (fun after _ => OcspEvidence verifier after.accepted certDer issuerDer now)
      (verifier.ocspStatus certDer issuerDer now) world := by
  unfold ocspStatus
  split
  · apply Ensures.check_bind
    intro builder made
    apply Ensures.bind (usableCachedResponse_ensures made)
    intro after _ found usable
    cases found with
    | none => exact queryStatus_ensures made
    | some response =>
      obtain ⟨otherCert, otherIssuer, otherBuilder, time, basicDer, basic, single, otherMade, named, logged, attests,
        fresh⟩ := usable response rfl
      refine ask trivial fun last moved _ _ => Ensures.check fun _ passed => ?_
      exact (attests.later moved).evidence made otherMade named (.inr (moved.subset logged)) fresh passed
  · exact .fail

/-- Evidence that the certificate of a link is not revoked. -/
def Evidence (verifier : RevocationCheckingVerifier) (accepted : List Accepted) (now : Occasion)
    (link : Octets × Octets) : Prop :=
  CrlEvidence verifier accepted link.1 link.2 now ∨ OcspEvidence verifier accepted link.1 link.2 now

variable {link : Octets × Octets}

theorem Evidence.later (moved : before <:+ after) (evidence : Evidence verifier before now link) :
    Evidence verifier after now link :=
  evidence.imp (CrlEvidence.later moved) (OcspEvidence.later moved)

theorem combine_eq_ok {ocspResult crlResult : Fallible Unit} (passed : combine ocspResult crlResult = .ok ()) :
    crlResult = .ok () := by
  unfold combine at passed
  split at passed
  · cases passed
  · cases passed
  · rfl
  · cases passed
  · rfl

def Strict (verifier : RevocationCheckingVerifier) : Prop :=
  verifier.config.checkMode ≠ .disabled ∧ verifier.config.fallbackBehavior = .failClosed

variable {good : World → Unit → Prop}

theorem handleError_ensures (reason : RevocationError) :
    (discipline verifier).Ensures (fun after value => Strict verifier → good after value)
      (verifier.handleError reason) world := by
  unfold handleError
  split
  · rename_i opens
    apply Ensures.pure
    intro strict
    cases opens.symm.trans strict.2
  · exact .fail

theorem settle_ensures {status : Action Unit} (ensures : (discipline verifier).Ensures good status world) :
    (discipline verifier).Ensures (fun after value => Strict verifier → good after value)
      (verifier.settle status) world := by
  apply Ensures.attempt ensures
  intro after _ result evidence
  split
  · exact .pure fun _ => evidence () rfl
  · exact .fail
  · exact handleError_ensures _

theorem checkRevocation_ensures (issued : isIssuedBy verifier.libraries verifier.algorithms certDer issuerDer = true) :
    (discipline verifier).Ensures
      (fun after _ => Strict verifier → Evidence verifier after.accepted now (certDer, issuerDer))
      (verifier.checkRevocation certDer issuerDer now) world := by
  have byCrl {world : World} : (discipline verifier).Ensures
      (fun after _ => Strict verifier → Evidence verifier after.accepted now (certDer, issuerDer))
      (verifier.checkCrl certDer issuerDer now) world :=
    (settle_ensures (crlStatus_ensures .link issued)).mono fun _ _ _ evidence strict => .inl (evidence strict)
  have byOcsp : (discipline verifier).Ensures
      (fun after _ => Evidence verifier after.accepted now (certDer, issuerDer))
      (verifier.ocspStatus certDer issuerDer now) world :=
    ocspStatus_ensures.mono fun _ _ _ evidence => .inr evidence
  unfold checkRevocation
  split
  · rename_i disabled
    exact .pure fun strict => absurd disabled strict.1
  · exact settle_ensures byOcsp
  · exact byCrl
  · apply Ensures.attempt byOcsp
    intro after _ result evidence
    split
    · exact .pure fun _ => evidence () rfl
    · exact .fail
    · exact byCrl
  · apply Ensures.attempt byOcsp
    intro between _ ocspResult _
    apply Ensures.attempt byCrl
    intro after _ crlResult evidence
    apply Ensures.check
    intro _ combined
    exact evidence () (combine_eq_ok combined)

theorem checkLinks_ensures (pairs checked : List (Octets × Octets))
    (issued : ∀ pair ∈ pairs, isIssuedBy verifier.libraries verifier.algorithms pair.1 pair.2 = true)
    (known : Strict verifier → ∀ pair ∈ checked, Evidence verifier world.accepted now pair) :
    (discipline verifier).Ensures
      (fun after _ => Strict verifier → ∀ pair ∈ pairs, Evidence verifier after.accepted now pair)
      (verifier.checkLinks now checked pairs) world := by
  induction pairs generalizing checked world with
  | nil => exact .pure nofun
  | cons pair pairs ih =>
    have rest := fun other member => issued other (List.mem_cons_of_mem _ member)
    unfold checkLinks
    split
    · rename_i before
      apply (ih checked rest known).mono
      intro after _ moved evidence strict other member
      rcases List.mem_cons.mp member with rfl | later
      · exact (known strict other before).later moved
      · exact evidence strict other later
    · apply Ensures.bind (checkRevocation_ensures (issued pair List.mem_cons_self))
      intro between moved _ own
      have grown (strict : Strict verifier) : ∀ other ∈ checked ++ [pair],
          Evidence verifier between.accepted now other := by
        intro other member
        rcases List.mem_append.mp member with old | new
        · exact (known strict other old).later moved
        · cases List.mem_singleton.mp new
          exact own strict
      apply (ih _ rest grown).mono
      intro after _ further evidence strict other member
      rcases List.mem_cons.mp member with rfl | later
      · exact (own strict).later further
      · exact evidence strict other later

theorem rel_of_mem_links {step : Octets → Octets → Prop} {path : List Octets} (chained : path.IsChain step)
    (member : link ∈ links path) : step link.1 link.2 := by
  induction chained with
  | nil | singleton => cases member
  | cons_cons first _ ih =>
    rcases List.mem_cons.mp member with rfl | later
    · exact first
    · exact ih later

/-- A presented chain, the time of its check and the number of its handshake. -/
structure Presented where
  endEntity : Octets
  intermediates : List Octets
  now : Occasion

/-- Every link of every path has evidence. -/
def Cleared (verifier : RevocationCheckingVerifier) (accepted : List Accepted) (chain : Presented) : Prop :=
  ∃ paths, buildPaths verifier.libraries verifier.algorithms verifier.issuerCerts chain.endEntity chain.intermediates
    chain.now.toUnixTime = .ok paths ∧ ∀ path ∈ paths, ∀ link ∈ links path, Evidence verifier accepted chain.now link

theorem Cleared.later {chain : Presented} (moved : before <:+ after) (cleared : Cleared verifier before chain) :
    Cleared verifier after chain := by
  obtain ⟨paths, built, evidence⟩ := cleared
  exact ⟨paths, built, fun path inPaths link linked => (evidence path inPaths link linked).later moved⟩

theorem checkChain_ensures (chain : Presented) :
    (discipline verifier).Ensures (fun after _ => Strict verifier → Cleared verifier after.accepted chain)
      (verifier.checkChain chain.endEntity chain.intermediates chain.now) world := by
  unfold checkChain
  split
  · rename_i disabled
    exact .pure fun strict => absurd disabled strict.1
  · split
    · rename_i paths built
      have issued : ∀ pair ∈ paths.flatMap links,
          isIssuedBy verifier.libraries verifier.algorithms pair.1 pair.2 = true := by
        intro pair member
        obtain ⟨path, inPaths, linked⟩ := List.mem_flatMap.mp member
        exact rel_of_mem_links (buildPaths_isChain built inPaths) linked
      apply (checkLinks_ensures _ [] issued nofun).mono
      intro after _ _ evidence strict
      exact ⟨paths, built, fun path member link linked =>
        evidence strict link (List.mem_flatMap.mpr ⟨path, member, linked⟩)⟩
    · exact .fail
    · exact handleError_ensures _

/-- Chains are checked at the same time, in handshakes of their own, however these
are numbered. -/
def handshakes (verifier : RevocationCheckingVerifier) : System Effect RevocationError Presented World where
  start chain := verifier.checkChain chain.endEntity chain.intermediates chain.now
  mayStart _ _ := true
  step := Performs verifier

theorem handshakes_assured {clock : Nat} {pool : Pool Effect RevocationError Presented World}
    (reached : (handshakes verifier).Reaches (fun _ _ _ _ => true) ⟨.initial clock, []⟩ pool) :
    (discipline verifier).AllAssured (Consistent verifier)
      (fun chain world outcome => ∀ value, outcome = .ok value → Strict verifier → Cleared verifier world.accepted chain)
      pool := by
  have starts (chain : Presented) (world : World) : (discipline verifier).Assures
      (fun after outcome => ∀ value, outcome = .ok value → Strict verifier → Cleared verifier after.accepted chain)
      ((handshakes verifier).start chain) world := checkChain_ensures chain
  refine (sound verifier).reaches starts ?_ ⟨consistent_initial verifier clock, by simp⟩ reached
  intro chain outcome before after moved cleared value passed strict
  exact (cleared value passed strict).later moved

end RevocationCheckingVerifier

end UsgRadius.Revocation
