import UsgRadius.Revocation.Verifier
import UsgRadius.Data.Assurance

namespace UsgRadius.Revocation

open Data Der OcspResponse OcspRequestBuilder

/-! Evidence that a certificate is not revoked, what each acceptance of a CRL or
of an OCSP response establishes, and why what the verifier remembers stays
evidence. -/

namespace CrlInfo

variable {libraries : Libraries} {algorithms : WebPkiSupportedAlgorithms} {crl : CrlInfo} {crlDer issuerDer spki : Octets}

theorem verifyCrl_eq_ok : crl.verifyCrl algorithms spki crlDer = .ok () ↔
    ∃ signed, splitSigned crlDer = .ok signed ∧ signed.trailing = [] ∧
      verifySignedData algorithms spki signed = .ok () := by
  unfold verifyCrl
  rw [Results.bind_eq_ok]
  apply exists_congr
  intro signed
  apply and_congr_right
  intro _
  by_cases whole : signed.trailing = []
  · cases verified : verifySignedData algorithms spki signed with
    | ok value => simp [whole]
    | error reason => cases reason <;> simp [whole]
  · simp [whole]

theorem signedWith_of_verifyCrl (verified : crl.verifyCrl algorithms spki crlDer = .ok ()) :
    signedWith algorithms spki crlDer = true := by
  obtain ⟨signed, split, _, valid⟩ := verifyCrl_eq_ok.mp verified
  simp only [signedWith, split, Results.ok_bind, valid]
  rfl

theorem checkSignature_eq_ok : crl.checkSignature libraries algorithms crlDer issuerDer = .ok spki ↔
    ∃ issuer, libraries.parseX509Certificate issuerDer = .ok issuer ∧ issuer.subject = crl.issuerRaw ∧
      checkKeyUsage issuer = .ok () ∧ crl.verifyCrl algorithms issuer.spki crlDer = .ok () ∧ spki = issuer.spki := by
  unfold checkSignature
  cases read : libraries.parseX509Certificate issuerDer with
  | error e => simp
  | ok issuer =>
    by_cases named : issuer.subject = crl.issuerRaw
    · simp [named, Results.bind_eq_ok, Unique.exists_iff, @eq_comm _ spki]
    · simp [named]

theorem parseAndVerify_eq_ok : parseAndVerify libraries algorithms crlDer issuerDer = .ok crl ↔
    ∃ parsed spki, parseDer libraries crlDer = .ok parsed ∧
      parsed.checkSignature libraries algorithms crlDer issuerDer = .ok spki ∧
      crl = { parsed with verifiedWith := some spki } := by
  simp [parseAndVerify, Results.bind_eq_ok, @eq_comm _ crl]

theorem validateCurrent_eq_ok {now : Int} : crl.validateCurrent libraries now = .ok () ↔
    crl.thisUpdate ≤ now ∧ ∃ nextUpdate, crl.nextUpdate = some nextUpdate ∧ now < nextUpdate := by
  unfold validateCurrent
  by_cases begun : crl.thisUpdate > now
  · simp [begun]
  · grind

end CrlInfo

/-- Not older than allowed: nextUpdate has not come, or, where there is none,
thisUpdate is not too long ago. -/
def SingleResponse.Fresh (single : SingleResponse) (now : UnixTime) (maxAge : Nat) : Prop :=
  single.thisUpdate ≤ now.asSecs + THIS_UPDATE_LEEWAY ∧
    match single.nextUpdate with
    | some nextUpdate => now.asSecs < nextUpdate
    | none => now.asSecs ≤ single.thisUpdate + maxAge

variable {single : SingleResponse}

theorem SingleResponse.fresh_iff {basic : BasicOcspResponse} {status : OcspResponseStatus} {derBytes : Octets}
    {now : UnixTime} {maxAge : Nat} :
    single.Fresh now maxAge ↔ (fromSingle status basic single derBytes).isFreshAt now.asSecs = true ∧
      (fromSingle status basic single derBytes).isWithinMaxAge now.asSecs maxAge = true := by
  unfold Fresh isFreshAt isWithinMaxAge fromSingle
  cases single.nextUpdate with
  | none | some nextUpdate => simp

variable {after : List Accepted}

namespace RevocationCheckingVerifier

variable {before : List Accepted} {response : OcspResponse}

/-- On this occasion a CRL was accepted, and none with a higher number had been
accepted before for the same issuer and key. -/
def Recorded (accepted : List Accepted) (now : Occasion) (issuerRaw issuerSpki : Octets) (crlNumber : Option Nat) :
    Prop :=
  ∃ later earlier, accepted = later ++ .crl now issuerRaw issuerSpki crlNumber :: earlier ∧
    ∀ time number, .crl time issuerRaw issuerSpki (some number) ∈ earlier →
      ∃ own, crlNumber = some own ∧ number ≤ own

theorem Recorded.later {now : Occasion} {issuerRaw issuerSpki : Octets} {crlNumber : Option Nat}
    (moved : before <:+ after) (recorded : Recorded before now issuerRaw issuerSpki crlNumber) :
    Recorded after now issuerRaw issuerSpki crlNumber := by
  obtain ⟨newer, rfl⟩ := moved
  obtain ⟨later, earlier, rfl, highest⟩ := recorded
  exact ⟨newer ++ later, earlier, by rw [List.append_assoc], highest⟩

structure Serves (verifier : RevocationCheckingVerifier) (accepted : List Accepted) (issuer : X509Certificate)
    (now : Occasion) (crlDer : Octets) (crl : CrlInfo) : Prop where
  parsed : CrlInfo.parseDer verifier.libraries crlDer = .ok crl
  named : crl.issuerRaw = issuer.subject
  signed : signedWith verifier.algorithms issuer.spki crlDer = true
  current : crl.thisUpdate ≤ now.asSecs ∧ ∃ nextUpdate, crl.nextUpdate = some nextUpdate ∧ now.asSecs < nextUpdate
  recorded : Recorded accepted now crl.issuerRaw issuer.spki crl.crlNumber

/-- Such a CRL was accepted in this check of the certificate and does not list it. -/
def CrlEvidence (verifier : RevocationCheckingVerifier) (accepted : List Accepted) (certDer issuerDer : Octets)
    (now : Occasion) : Prop :=
  ∃ cert issuer crlDer crl, verifier.libraries.parseX509Certificate certDer = .ok cert ∧
    verifier.libraries.parseX509Certificate issuerDer = .ok issuer ∧
    Serves verifier accepted issuer (now.about certDer issuerDer) crlDer crl ∧ cert.serial ∉ crl.revokedSerials

/-- A certificate that the issuer has issued for signing OCSP responses and that
is valid at the time, and either exempt from checks or checked then itself. -/
structure Delegate (verifier : RevocationCheckingVerifier) (accepted : List Accepted) (issuerDer : Octets)
    (time : Occasion) (delegateDer : Octets) (delegate : X509Certificate) : Prop where
  parsed : verifier.libraries.parseX509Certificate delegateDer = .ok delegate
  issued : isIssuedBy verifier.libraries verifier.algorithms delegateDer issuerDer = true
  purpose : delegate.extendedKeyUsage = .ok (some true)
  valid : delegate.isValidAt time.asSecs = true
  unrevoked : delegate.hasOcspNocheck = true ∨ CrlEvidence verifier accepted delegateDer issuerDer time

def Authorized (verifier : RevocationCheckingVerifier) (accepted : List Accepted) (issuerDer : Octets) (time : Occasion)
    (basic : BasicOcspResponse) : Prop :=
  (∃ issuer, verifier.libraries.parseX509Certificate issuerDer = .ok issuer ∧
    verifySignedData verifier.algorithms issuer.spki basic.signedData = .ok ()) ∨
  ∃ delegateDer ∈ basic.certs, ∃ delegate, Delegate verifier accepted issuerDer time delegateDer delegate ∧
    verifySignedData verifier.algorithms delegate.spki basic.signedData = .ok ()

/-- The answer for a CertID in a response whose signer was authorized by an issuer
when it was accepted. -/
structure Attests (verifier : RevocationCheckingVerifier) (accepted : List Accepted) (issuerDer : Octets)
    (time : Occasion) (certId : CertId) (basicDer : Octets) (basic : BasicOcspResponse) (single : SingleResponse)
    (response : OcspResponse) : Prop where
  outer : parseOuter response.rawBytes = .ok (response.status, some basicDer)
  parsed : BasicOcspResponse.parse verifier.libraries basicDer = .ok basic
  member : single ∈ basic.responses
  about : single.certId = certId
  same : response = .fromSingle response.status basic single response.rawBytes
  authorized : Authorized verifier accepted issuerDer time basic

/-- A fresh answer `good` for the CertID of the certificate, accepted in this check,
or before and kept in the cache: then the signer was authorized on the occasion
that is recorded, by the issuer that the CertID names, the same or another
certificate with the same hashes of name and key. -/
def OcspEvidence (verifier : RevocationCheckingVerifier) (accepted : List Accepted) (certDer issuerDer : Octets)
    (now : Occasion) : Prop :=
  ∃ builder otherCert otherIssuer otherBuilder time basicDer basic single response,
    new verifier.libraries certDer issuerDer = .ok builder ∧
    new verifier.libraries otherCert otherIssuer = .ok otherBuilder ∧
    otherBuilder.certId = builder.certId ∧
    (time = now ∧ otherIssuer = issuerDer ∨ .response time builder.certId.cacheKey response ∈ accepted) ∧
    Attests verifier accepted otherIssuer time builder.certId basicDer basic single response ∧
    response.status = .successful ∧ single.status = .good ∧
    single.Fresh now.toUnixTime verifier.config.ocspConfig.cacheTtlSecs

section Later

variable {verifier : RevocationCheckingVerifier} {before after : List Accepted} {certDer issuerDer : Octets}
  {now : Occasion} {basic : BasicOcspResponse}

theorem CrlEvidence.later (moved : before <:+ after) (evidence : CrlEvidence verifier before certDer issuerDer now) :
    CrlEvidence verifier after certDer issuerDer now := by
  obtain ⟨cert, issuer, crlDer, crl, readCert, readIssuer, serves, unlisted⟩ := evidence
  exact ⟨cert, issuer, crlDer, crl, readCert, readIssuer, { serves with recorded := serves.recorded.later moved },
    unlisted⟩

theorem Authorized.later (moved : before <:+ after) (authorized : Authorized verifier before issuerDer now basic) :
    Authorized verifier after issuerDer now basic := by
  refine authorized.imp_right ?_
  intro ⟨delegateDer, member, delegate, made, signed⟩
  exact ⟨delegateDer, member, delegate,
    { made with unrevoked := made.unrevoked.imp_right fun evidence => evidence.later moved }, signed⟩

theorem Attests.later {certId : CertId} {basicDer : Octets} (moved : before <:+ after)
    (attests : Attests verifier before issuerDer now certId basicDer basic single response) :
    Attests verifier after issuerDer now certId basicDer basic single response :=
  { attests with authorized := attests.authorized.later moved }

theorem OcspEvidence.later (moved : before <:+ after) (evidence : OcspEvidence verifier before certDer issuerDer now) :
    OcspEvidence verifier after certDer issuerDer now := by
  obtain ⟨builder, otherCert, otherIssuer, otherBuilder, time, basicDer, basic, single, response, made, otherMade, same,
    whence, attests, rest⟩ := evidence
  exact ⟨builder, otherCert, otherIssuer, otherBuilder, time, basicDer, basic, single, response, made, otherMade, same,
    whence.imp_right fun logged => moved.subset logged, attests.later moved, rest⟩

end Later

def VerifiedCrl (verifier : RevocationCheckingVerifier) (crl : CrlInfo) : Prop :=
  ∃ crlDer parsed spki, verifier.crlFetcher = true ∧ CrlInfo.parseDer verifier.libraries crlDer = .ok parsed ∧
    crl = { parsed with verifiedWith := some spki } ∧ parsed.verifyCrl verifier.algorithms spki crlDer = .ok ()

def SignedStatic (verifier : RevocationCheckingVerifier) (index : Nat) (spki : Octets) : Prop :=
  ∀ crl, verifier.staticCrls[index]? = some crl → crl.info.verifyCrl verifier.algorithms spki crl.der = .ok ()

def Vouched (verifier : RevocationCheckingVerifier) (accepted : List Accepted) (time : Occasion) (key : Octets)
    (response : OcspResponse) : Prop :=
  ∃ certDer issuerDer builder basicDer basic single,
    new verifier.libraries certDer issuerDer = .ok builder ∧ key = builder.certId.cacheKey ∧
    Attests verifier accepted issuerDer time builder.certId basicDer basic single response

/-- The response is one that was accepted, and it was vouched for then. -/
def Known (verifier : RevocationCheckingVerifier) (accepted : List Accepted) (key : Octets)
    (response : OcspResponse) : Prop :=
  ∃ time, .response time key response ∈ accepted ∧ Vouched verifier accepted time key response

variable {verifier : RevocationCheckingVerifier} {key : Octets}

theorem Vouched.later {time : Occasion} (moved : before <:+ after) (vouched : Vouched verifier before time key response) :
    Vouched verifier after time key response := by
  obtain ⟨certDer, issuerDer, builder, basicDer, basic, single, made, keyed, attests⟩ := vouched
  exact ⟨certDer, issuerDer, builder, basicDer, basic, single, made, keyed, attests.later moved⟩

theorem Known.later (moved : before <:+ after) (known : Known verifier before key response) :
    Known verifier after key response := by
  obtain ⟨time, logged, vouched⟩ := known
  exact ⟨time, moved.subset logged, vouched.later moved⟩

/-- Only what has been verified is remembered, and what is remembered was verified. -/
def discipline (verifier : RevocationCheckingVerifier) : Discipline Effect World where
  later before after := before.accepted <:+ after.accepted
  refl _ := List.suffix_rfl
  trans := List.IsSuffix.trans
  permits world _ effect :=
    match effect with
    | .cacheCrl _ crl => VerifiedCrl verifier crl
    | .cacheOcsp key response now => Vouched verifier world.accepted now key response
    | .verifyStatic index issuerSpki verdict => verdict.isOk = true → SignedStatic verifier index issuerSpki
    | _ => True
  lasts {world after Answer effect} moved permitted := by
    cases effect with
    | cacheOcsp key response now => exact Vouched.later moved permitted
    | _ => exact permitted
  tells world _ effect :=
    match effect with
    | .cachedCrl _ => fun found => ∀ crl, found = some crl → VerifiedCrl verifier crl
    | .cachedOcsp key => fun found => ∀ response, found = some response → Known verifier world.accepted key response
    | .verifyStatic index issuerSpki _ => fun result => result = .ok () → SignedStatic verifier index issuerSpki
    | .recordCrlNumber crl issuerSpki now => fun result =>
      result = .ok () → Recorded world.accepted now crl.issuerRaw issuerSpki crl.crlNumber
    | _ => fun _ => True

structure Consistent (verifier : RevocationCheckingVerifier) (world : World) : Prop where
  numbers : ∀ time issuerRaw issuerSpki number, .crl time issuerRaw issuerSpki (some number) ∈ world.accepted →
    ∃ seen, world.crlNumbers.lookup (issuerRaw, issuerSpki) = some seen ∧ number ≤ seen
  statics : ∀ index spki, world.verifiedWith index = some spki → SignedStatic verifier index spki
  crls : ∀ entry ∈ world.crlCache.entries, VerifiedCrl verifier entry.2.value
  responses : ∀ entry ∈ world.ocspCache.entries, Known verifier world.accepted entry.1 entry.2.value

theorem consistent_initial (verifier : RevocationCheckingVerifier) (clock : Nat) :
    Consistent verifier (.initial clock) :=
  ⟨nofun, nofun, nofun, nofun⟩

variable {after numbers : AList fun _ : Octets × Octets => Nat} {crl : CrlInfo} {issuerSpki : Octets}

theorem recordNumber_eq_ok (recorded : recordNumber crl issuerSpki numbers = (.ok (), after)) :
    (∀ seen, numbers.lookup (crl.issuerRaw, issuerSpki) = some seen →
      ∃ number, crl.crlNumber = some number ∧ seen ≤ number) ∧
    (∀ number, crl.crlNumber = some number → after.lookup (crl.issuerRaw, issuerSpki) = some number) ∧
    ∀ key, key ≠ (crl.issuerRaw, issuerSpki) → after.lookup key = numbers.lookup key := by
  unfold recordNumber at recorded
  split at recorded
  · rename_i seen number held own
    split at recorded
    · cases recorded
    · rename_i low
      split at recorded
      · cases recorded
        refine ⟨fun other same => ⟨number, own, ?_⟩, fun other same => ?_, fun key ne => AList.lookup_insert_ne ne⟩
        · cases held.symm.trans same
          omega
        · cases own.symm.trans same
          exact AList.lookup_insert _
      · grind
  · cases recorded
  · rename_i number held own
    cases recorded
    refine ⟨fun other same => ?_, fun other same => ?_, fun key ne => AList.lookup_insert_ne ne⟩
    · cases held.symm.trans same
    · cases own.symm.trans same
      exact AList.lookup_insert _
  · grind

theorem recordNumber_eq_error {reason : RevocationError}
    (refused : recordNumber crl issuerSpki numbers = (.error reason, after)) : after = numbers := by
  unfold recordNumber at refused
  split at refused
  · split at refused
    · cases refused
      rfl
    · split at refused <;> cases refused
  · cases refused
    rfl
  · cases refused
  · cases refused

theorem Consistent.recorded {world : World} {now : Occasion} (consistent : Consistent verifier world)
    (recorded : recordNumber crl issuerSpki world.crlNumbers = (.ok (), after)) :
    Consistent verifier { world with
      crlNumbers := after
      accepted := .crl now crl.issuerRaw issuerSpki crl.crlNumber :: world.accepted } ∧
    Recorded (.crl now crl.issuerRaw issuerSpki crl.crlNumber :: world.accepted) now crl.issuerRaw issuerSpki
      crl.crlNumber := by
  obtain ⟨highest, own, others⟩ := recordNumber_eq_ok recorded
  refine ⟨⟨?_, consistent.statics, consistent.crls, ?_⟩, [], world.accepted, rfl, ?_⟩
  · intro time issuerRaw spki number member
    rcases List.mem_cons.mp member with same | earlier
    · obtain ⟨-, rfl, rfl, numbered⟩ := Accepted.crl.inj same
      exact ⟨number, own number numbered.symm, le_rfl⟩
    · obtain ⟨seen, held, below⟩ := consistent.numbers time issuerRaw spki number earlier
      by_cases same : (issuerRaw, spki) = (crl.issuerRaw, issuerSpki)
      · grind
      · exact ⟨seen, by rw [others _ same, held], below⟩
  · exact fun entry member => (consistent.responses entry member).later (List.suffix_cons _ _)
  · intro time number earlier
    obtain ⟨seen, held, below⟩ := consistent.numbers time _ _ number earlier
    obtain ⟨next, isNext, above⟩ := highest seen held
    exact ⟨next, isNext, below.trans above⟩

theorem sound (verifier : RevocationCheckingVerifier) :
    (discipline verifier).Sound (Performs verifier) (Consistent verifier) where
  keeps world Answer effect answer after consistent permitted performed := by
    obtain ⟨around, _, _, _, done⟩ := performed
    have kept : world.accepted <:+ world.accepted := List.suffix_rfl
    cases effect with
    | cachedCrl url =>
      simp only [perform, Prod.mk.injEq] at done
      obtain ⟨rfl, rfl⟩ := done
      refine ⟨{ consistent with crls := fun entry member => ?_ }, kept, fun crl found => ?_⟩
      · exact consistent.crls entry (TtlCache.mem_of_mem_get member)
      · obtain ⟨entry, member, _, rfl⟩ := TtlCache.get_fst found
        exact consistent.crls entry member
    | cacheCrl url crl =>
      cases done
      refine ⟨{ consistent with crls := fun entry member => ?_ }, kept, trivial⟩
      rcases TtlCache.mem_of_mem_insert member with rfl | old
      · exact permitted
      · exact consistent.crls entry old
    | cachedOcsp key =>
      simp only [perform, Prod.mk.injEq] at done
      obtain ⟨rfl, rfl⟩ := done
      refine ⟨{ consistent with responses := fun entry member => ?_ }, kept, fun response found => ?_⟩
      · exact consistent.responses entry (TtlCache.mem_of_mem_get member)
      · obtain ⟨entry, member, rfl, rfl⟩ := TtlCache.get_fst found
        exact consistent.responses entry member
    | cacheOcsp key response now =>
      cases done
      have grown := List.suffix_cons (.response now key response) world.accepted
      refine ⟨⟨fun time issuerRaw spki number member => ?_, consistent.statics, consistent.crls,
        fun entry member => ?_⟩, grown, trivial⟩
      · exact consistent.numbers time issuerRaw spki number (by simpa using member)
      · rcases TtlCache.mem_of_mem_insert member with rfl | old
        · exact ⟨now, List.mem_cons_self, Vouched.later grown permitted⟩
        · exact (consistent.responses entry old).later grown
    | verifyStatic index issuerSpki verdict =>
      simp only [perform] at done
      split at done
      · rename_i remembered
        cases done
        exact ⟨consistent, kept, fun _ => consistent.statics index issuerSpki remembered⟩
      · cases verdict with
        | error reason =>
          cases done
          exact ⟨consistent, kept, nofun⟩
        | ok spki =>
          cases done
          refine ⟨{ consistent with statics := fun other key held => ?_ }, kept, fun _ => permitted rfl⟩
          simp only [Function.update_apply] at held
          split at held
          · rename_i same
            cases held
            exact same ▸ permitted rfl
          · exact consistent.statics other key held
    | recordCrlNumber crl issuerSpki now =>
      simp only [perform] at done
      split at done
      · rename_i numbers recorded
        cases done
        obtain ⟨next, newest⟩ := consistent.recorded recorded
        exact ⟨next, List.suffix_cons _ _, fun _ => newest⟩
      · rename_i reason numbers refused
        cases done
        cases recordNumber_eq_error refused
        exact ⟨consistent, kept, nofun⟩
    | fetchCrl url | queryOcsp url request | randomNonce | consulted role certDer source =>
      cases done
      exact ⟨consistent, kept, trivial⟩

end RevocationCheckingVerifier

end UsgRadius.Revocation
