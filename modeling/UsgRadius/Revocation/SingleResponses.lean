import UsgRadius.Revocation.Checks

namespace UsgRadius.Revocation

open Data Der Program Discipline RevocationCheckingVerifier OcspResponse

/-! A response may have several answers for one certificate. What a check makes of
a response in which one of them is `revoked`. -/

/-- A correctly signed response in which a fresh answer for the requested CertID
is `revoked`, among whatever else. -/
structure RevokedReport (libraries : Libraries) (algorithms : WebPkiSupportedAlgorithms) (certDer issuerDer : Octets)
    (now : Occasion) (maxAge : Nat) where
  builder : OcspRequestBuilder
  requested : OcspRequestBuilder.new libraries certDer issuerDer = .ok builder
  url : String
  located : extractOcspUrl libraries certDer = .ok url
  responseDer : Octets
  basicDer : Octets
  outer : parseOuter responseDer = .ok (.successful, some basicDer)
  basic : BasicOcspResponse
  parsed : BasicOcspResponse.parse libraries basicDer = .ok basic
  authorization : ResponderAuthorization
  signed : basic.authorizeSigner libraries algorithms issuerDer now.toUnixTime = .ok authorization
  single : SingleResponse
  member : single ∈ basic.responses
  about : single.certId = builder.certId
  isRevoked : single.status.isRevoked = true
  fresh : single.Fresh now.toUnixTime maxAge

/-- The status of the responder itself does not have to be found out. -/
def ResponderAuthorization.Exempt (authorization : ResponderAuthorization) : Prop :=
  ∀ certificate, authorization ≠ .delegated certificate false

namespace RevokedReport

variable {libraries : Libraries} {algorithms : WebPkiSupportedAlgorithms} {certDer issuerDer : Octets} {now : Occasion}
  {maxAge : Nat}

/-- The responder sends the report, which has our nonce if it has one; no response
is cached, and all other answers are arbitrary. -/
def Answered (report : RevokedReport libraries algorithms certDer issuerDer now maxAge) :
    Semantics RevocationCheckingVerifier.Effect Unit :=
  fun _ effect _ =>
    match effect with
    | .cachedOcsp _ => fun found _ => found = none
    | .queryOcsp _ _ => fun fetched _ => fetched = .ok report.responseDer
    | .randomNonce => fun nonce _ => ∀ echoed, report.basic.nonce = some echoed → echoed = nonce.octets
    | _ => fun _ _ => True

/-- With any configuration that uses OCSP, the certificate does not pass. -/
def Rejected (report : RevokedReport libraries algorithms certDer issuerDer now maxAge) : Prop :=
  ∀ (config : RevocationConfig) (staticCrls : List (StaticCrl libraries)) (issuerCerts : List Octets)
    (outcome : Fallible Unit), modeUsesOcsp config.checkMode = true → config.ocspConfig.cacheTtlSecs = maxAge →
      Runs report.Answered (checkRevocation
        ⟨libraries, algorithms, config, staticCrls, issuerCerts⟩ certDer issuerDer now) () outcome () →
      outcome ≠ .ok ()

/-- The answer that is taken. -/
def first (report : RevokedReport libraries algorithms certDer issuerDer now maxAge) : Option SingleResponse :=
  report.basic.responses.find? fun single => single.certId == report.builder.certId

variable (report : RevokedReport libraries algorithms certDer issuerDer now maxAge)

theorem exists_first : ∃ first, report.first = some first := by
  apply Option.isSome_iff_exists.mp
  rw [first, List.find?_isSome]
  exact ⟨report.single, report.member, beq_iff_eq.mpr report.about⟩

section First

variable {report} {first : SingleResponse} (found : report.first = some first)
include found

theorem parseVerified_of_fresh (fresh : first.Fresh now.toUnixTime maxAge) :
    parseVerified libraries algorithms report.responseDer report.builder.certId issuerDer now.toUnixTime maxAge =
      .ok (.fromSingle .successful report.basic first report.responseDer, report.authorization) := by
  obtain ⟨isFresh, recent⟩ := SingleResponse.fresh_iff.mp fresh
  exact parseVerified_eq_ok.mpr ⟨report.basicDer, report.basic, first, report.outer, report.parsed, found,
    report.signed, rfl, isFresh, recent⟩

theorem parseVerified_of_stale (stale : ¬ first.Fresh now.toUnixTime maxAge) :
    ∃ text, parseVerified libraries algorithms report.responseDer report.builder.certId issuerDer now.toUnixTime maxAge =
      .error (.ocspError text) := by
  unfold RevokedReport.first at found
  unfold parseVerified
  simp only [report.outer, report.parsed, found, report.signed, Results.ok_bind]
  by_cases isFresh : (fromSingle .successful report.basic first report.responseDer).isFreshAt now.asSecs = true
  · by_cases recent : (fromSingle .successful report.basic first report.responseDer).isWithinMaxAge
        now.asSecs maxAge = true
    · exact absurd (SingleResponse.fresh_iff.mpr ⟨isFresh, recent⟩) stale
    · simp [isFresh, recent]
  · simp [isFresh]

end First

def answering : Discipline RevocationCheckingVerifier.Effect Unit where
  later _ _ := True
  refl _ := trivial
  trans _ _ := trivial
  permits _ _ _ := True
  lasts _ _ := trivial
  tells _ Answer effect answer := report.Answered Answer effect () answer ()

theorem answering_sound : (report.answering).Sound report.Answered fun _ => True where
  keeps _ _ _ _ _ _ _ answered := ⟨trivial, trivial, answered⟩

theorem assures_any {Value : Type} (program : RevocationCheckingVerifier.Action Value) (world : Unit) :
    report.answering.Assures (fun _ _ => True) program world := by
  induction program generalizing world with
  | done outcome => trivial
  | perform effect next ih => exact ⟨trivial, fun after _ answer _ => ih answer after⟩

end RevokedReport

namespace RevocationCheckingVerifier

variable {basic : BasicOcspResponse} {single : SingleResponse} {derBytes : Octets}

section Rejecting

variable {verifier : RevocationCheckingVerifier} {certDer issuerDer : Octets} {now : Occasion}
  {report : RevokedReport verifier.libraries verifier.algorithms certDer issuerDer now
    verifier.config.ocspConfig.cacheTtlSecs}
  {first : SingleResponse}

theorem drawNonce_echoed :
    report.answering.Assures
      (fun _ outcome => ∃ nonce, outcome = .ok nonce ∧ ∀ sent echoed, nonce = some sent →
        report.basic.nonce = some echoed → echoed = sent)
      verifier.drawNonce () := by
  unfold drawNonce
  split
  · refine Assures.ask trivial fun _ _ nonce answered => ⟨_, rfl, ?_⟩
    intro sent echoed isSent isEchoed
    cases isSent
    exact answered echoed isEchoed
  · exact ⟨none, rfl, nofun⟩

theorem checkNonce_echoed {sent got : Option Octets}
    (echoed : ∀ ours theirs, sent = some ours → got = some theirs → theirs = ours) :
    ∃ cacheable, checkNonce sent got = .ok cacheable := by
  cases sent with
  | none => exact ⟨true, rfl⟩
  | some ours =>
    cases got with
    | none => exact ⟨false, rfl⟩
    | some theirs =>
      cases echoed ours theirs rfl rfl
      exact ⟨true, if_neg fun differs => differs rfl⟩

theorem checkAuthorization_of_exempt {authorization : ResponderAuthorization} (exempt : authorization.Exempt) :
    verifier.checkAuthorization authorization issuerDer now = .done (.ok ()) := by
  unfold checkAuthorization
  split
  · exact absurd rfl (exempt _)
  · rfl

theorem checkOcspResponseStatus_of_revoked (isRevoked : single.status.isRevoked = true) :
    checkOcspResponseStatus (.fromSingle .successful basic single derBytes) =
      .error (.certificateRevoked "Certificate revoked (OCSP)") := by
  cases status : single.status with
  | good | unknown => simp [status, CertificateStatus.isRevoked] at isRevoked
  | revoked time reason => simp [checkOcspResponseStatus, fromSingle, status]

variable (found : report.first = some first) (fresh : first.Fresh now.toUnixTime verifier.config.ocspConfig.cacheTtlSecs)
  (exempt : report.authorization.Exempt)
include found fresh exempt

theorem evaluateOcspResponse_of_fresh {nonce : Option Octets}
    (echoed : ∀ ours theirs, nonce = some ours → report.basic.nonce = some theirs → theirs = ours) :
    ∃ cacheable, verifier.evaluateOcspResponse report.responseDer report.builder.certId issuerDer nonce now =
      .done (.ok (.fromSingle .successful report.basic first report.responseDer, cacheable)) := by
  obtain ⟨cacheable, echoes⟩ := checkNonce_echoed echoed
  refine ⟨cacheable, ?_⟩
  simp only [evaluateOcspResponse, RevokedReport.parseVerified_of_fresh found fresh, check, ok_bind,
    fromSingle, echoes, checkAuthorization_of_exempt exempt, pure_eq]

variable (isRevoked : first.status.isRevoked = true)
include isRevoked

theorem queryStatus_revoked :
    report.answering.Assures (fun _ outcome => outcome = .error (.certificateRevoked "Certificate revoked (OCSP)"))
      (verifier.queryStatus certDer issuerDer report.builder now) () := by
  unfold queryStatus
  rw [report.located]
  refine Assures.check (fun _ failed => by cases failed) fun url _ => Assures.bind (drawNonce_echoed.mono ?_)
  intro _ outcome _ drawn
  obtain ⟨nonce, rfl, echoed⟩ := drawn
  refine Assures.ask trivial fun _ _ fetched isReport => ?_
  cases isReport
  obtain ⟨cacheable, evaluated⟩ := evaluateOcspResponse_of_fresh found fresh exempt echoed
  simp only [check, ok_bind, evaluated]
  refine Assures.ask trivial fun _ _ _ _ => ?_
  cases cacheable with
  | false => exact checkOcspResponseStatus_of_revoked isRevoked
  | true => exact Assures.ask trivial fun _ _ _ _ => checkOcspResponseStatus_of_revoked isRevoked

theorem ocspStatus_revoked (usesOcsp : modeUsesOcsp verifier.config.checkMode = true) :
    report.answering.Assures (fun _ outcome => outcome = .error (.certificateRevoked "Certificate revoked (OCSP)"))
      (verifier.ocspStatus certDer issuerDer now) () := by
  unfold ocspStatus
  rw [if_pos usesOcsp, report.requested]
  refine Assures.bind (Assures.ask trivial fun _ _ cached isNone => ?_)
  cases isNone
  exact queryStatus_revoked found fresh exempt isRevoked

theorem checkRevocation_revoked (usesOcsp : modeUsesOcsp verifier.config.checkMode = true) :
    report.answering.Assures (fun _ outcome => outcome ≠ .ok ()) (verifier.checkRevocation certDer issuerDer now) () := by
  have ocsp := ocspStatus_revoked found fresh exempt isRevoked usesOcsp
  unfold checkRevocation
  cases mode : verifier.config.checkMode with
  | disabled | crlOnly => simp [modeUsesOcsp, mode] at usesOcsp
  | ocspOnly | preferOcsp =>
    refine Assures.bind (Assures.attempt (ocsp.mono ?_))
    intro _ result _ ends
    subst ends
    exact nofun
  | both =>
    refine Assures.bind (Assures.attempt (ocsp.mono ?_))
    intro after result _ ends
    subst ends
    refine Assures.bind (Assures.attempt ((report.assures_any _ after).mono ?_))
    exact fun _ _ _ _ => nofun

end Rejecting

section Passing

variable {libraries : Libraries} {algorithms : WebPkiSupportedAlgorithms} {certDer issuerDer : Octets} {now : Occasion}
  {maxAge : Nat} {report : RevokedReport libraries algorithms certDer issuerDer now maxAge} {first : SingleResponse}

def lenient (libraries : Libraries) (algorithms : WebPkiSupportedAlgorithms) (maxAge : Nat) :
    RevocationCheckingVerifier where
  libraries
  algorithms
  config := ⟨.ocspOnly, .failOpen, ⟨false, 0, 0⟩, ⟨maxAge, 0, false⟩⟩
  staticCrls := []
  issuerCerts := []

theorem checkOcspResponseStatus_of_not_revoked (other : single.status.isRevoked = false) (serial : String) :
    checkOcspResponseStatus (.fromSingle .successful basic single derBytes) ≠ .error (.certificateRevoked serial) := by
  cases status : single.status with
  | good | unknown => simp [checkOcspResponseStatus, fromSingle, status]
  | revoked time reason => simp [status, CertificateStatus.isRevoked] at other

/-- What the evaluation of the report comes to, unless its first answer counts and
is `revoked`. -/
theorem lenient_evaluate (found : report.first = some first)
    (other : ¬ (first.status.isRevoked = true ∧ first.Fresh now.toUnixTime maxAge ∧ report.authorization.Exempt)) :
    ∃ evaluated, (lenient libraries algorithms maxAge).evaluateOcspResponse report.responseDer report.builder.certId
        issuerDer none now = .done evaluated ∧
      ∀ serial, (evaluated >>= fun answer => checkOcspResponseStatus answer.1) ≠ .error (.certificateRevoked serial) := by
  by_cases fresh : first.Fresh now.toUnixTime maxAge
  · by_cases exempt : report.authorization.Exempt
    · obtain ⟨cacheable, evaluated⟩ := @evaluateOcspResponse_of_fresh (lenient libraries algorithms maxAge) _ _ _ report
        first found fresh exempt none (fun _ _ same => by cases same)
      refine ⟨_, evaluated, checkOcspResponseStatus_of_not_revoked ?_⟩
      rw [← Bool.not_eq_true]
      exact fun isRevoked => other ⟨isRevoked, fresh, exempt⟩
    · simp only [ResponderAuthorization.Exempt, not_forall, not_not] at exempt
      obtain ⟨certificate, delegated⟩ := exempt
      have verified := RevokedReport.parseVerified_of_fresh found fresh
      refine ⟨.error (.ocspError ("delegated OCSP responder certificate lacks id-pkix-ocsp-nocheck and no CRL " ++
        "source is configured to check it")), ?_, fun _ same => by cases same⟩
      rw [delegated] at verified
      simp only [evaluateOcspResponse, lenient, verified, check, ok_bind, checkNonce, checkAuthorization]
      rfl
  · obtain ⟨text, refused⟩ := RevokedReport.parseVerified_of_stale found fresh
    refine ⟨.error (.ocspError text), ?_, fun _ same => by cases same⟩
    simp only [evaluateOcspResponse, lenient, refused, check, error_bind]

theorem lenient_ocspStatus {evaluated : Fallible (OcspResponse × Bool)}
    (evaluates : (lenient libraries algorithms maxAge).evaluateOcspResponse report.responseDer report.builder.certId
      issuerDer none now = .done evaluated) :
    Runs report.Answered ((lenient libraries algorithms maxAge).ocspStatus certDer issuerDer now) ()
      (evaluated >>= fun answer => checkOcspResponseStatus answer.1) () := by
  have uses : modeUsesOcsp (lenient libraries algorithms maxAge).config.checkMode = true := rfl
  unfold ocspStatus
  rw [if_pos uses]
  refine runs_check_bind.mpr (.inr ⟨report.builder, report.requested, ?_⟩)
  refine runs_bind.mpr (.inr ⟨none, (), runs_perform.mpr ⟨none, (), rfl, .done⟩, ?_⟩)
  refine runs_check_bind.mpr (.inr ⟨report.url, report.located, ?_⟩)
  refine runs_bind.mpr (.inr ⟨none, (), .done, ?_⟩)
  rw [ask_bind]
  refine runs_perform.mpr ⟨.ok report.responseDer, (), rfl, ?_⟩
  refine runs_check_bind.mpr (.inr ⟨report.responseDer, rfl, ?_⟩)
  rw [evaluates]
  cases evaluated with
  | error reason => exact .done
  | ok answer =>
    obtain ⟨response, cacheable⟩ := answer
    refine runs_perform.mpr ⟨(), (), trivial, ?_⟩
    cases cacheable with
    | false => exact .done
    | true => exact runs_perform.mpr ⟨(), (), trivial, .done⟩

end Passing

end RevocationCheckingVerifier

namespace RevokedReport

variable {libraries : Libraries} {algorithms : WebPkiSupportedAlgorithms} {certDer issuerDer : Octets} {now : Occasion}
  {maxAge : Nat}

/-- A report is rejected by every configuration exactly if its first answer for the
certificate is `revoked` and fresh, and its signer needs no check of its own. -/
theorem rejected_iff (report : RevokedReport libraries algorithms certDer issuerDer now maxAge) :
    report.Rejected ↔
      (∃ first, report.first = some first ∧ first.status.isRevoked = true ∧ first.Fresh now.toUnixTime maxAge) ∧
      report.authorization.Exempt := by
  refine ⟨?_, ?_⟩
  · intro rejected
    obtain ⟨first, found⟩ := report.exists_first
    by_contra other
    obtain ⟨evaluated, evaluates, passes⟩ := lenient_evaluate found
      fun ⟨isRevoked, fresh, exempt⟩ => other ⟨⟨first, found, isRevoked, fresh⟩, exempt⟩
    have status := lenient_ocspStatus evaluates
    have run : Runs report.Answered ((lenient libraries algorithms maxAge).checkRevocation
        certDer issuerDer now) () (.ok ()) () := by
      refine runs_attempt_bind.mpr ⟨_, (), status, ?_⟩
      split
      · exact .done
      · rename_i serial revoked
        exact absurd revoked (passes serial)
      · exact .done
    exact rejected _ [] [] _ rfl rfl run rfl
  · intro ⟨⟨first, found, isRevoked, fresh⟩, exempt⟩ config staticCrls issuerCerts outcome usesOcsp sameAge run
    subst sameAge
    have revoked := @checkRevocation_revoked
      ⟨libraries, algorithms, config, staticCrls, issuerCerts⟩ _ _ _ report first found fresh exempt isRevoked usesOcsp
    exact (report.answering_sound.runs trivial revoked run).2

/-! ## A good answer before the revoked one -/

def sampleLeaf : Octets := Sample.certificate 4 1 4 7 0 1

def sampleRoot : Octets := Sample.certificate 1 1 1 1 1 1

def sampleBuilder : OcspRequestBuilder :=
  ⟨[7], (Block.fill 32 1).octets, (Block.fill 32 1).octets, none⟩

def sampleTime : Octets := derTlv 0x18 (utf8 "Z")

def sampleTbs : Octets :=
  derSequence (derTlv 0xA2 (derOctetString (List.replicate 20 0)) ++ sampleTime ++ derSequence
    (derSequence (sampleBuilder.buildCertId ++ [0x80, 0] ++ sampleTime) ++
      derSequence (sampleBuilder.buildCertId ++ derTlv 0xA1 sampleTime ++ sampleTime)))

def sampleBasicDer : Octets :=
  derSequence (sampleTbs ++ [0x30, 0, 0x03, 2, 0, 1])

def sampleOccasion : Occasion := ⟨Sample.epoch, 1, ([], [])⟩

def sampleReport : RevokedReport Sample.libraries Sample.algorithms sampleLeaf sampleRoot sampleOccasion 60 where
  builder := sampleBuilder
  requested := by decide +kernel
  url := "http://ocsp"
  located := by decide +kernel
  responseDer := derSequence ([0x0A, 1, 0] ++
    derTlv 0xA0 (derSequence (derTlv 0x06 OCSP_BASIC_OID ++ derOctetString sampleBasicDer)))
  basicDer := sampleBasicDer
  outer := by decide +kernel
  basic := {
    tbs := sampleTbs
    signatureAlgorithm := []
    signature := [1]
    certs := []
    responderId := .byKey (List.replicate 20 0)
    producedAt := 0
    responses := [⟨sampleBuilder.certId, .good, 0, none⟩, ⟨sampleBuilder.certId, .revoked 0 none, 0, none⟩]
    nonce := none }
  parsed := by decide +kernel
  authorization := .issuer
  signed := by decide +kernel
  single := ⟨sampleBuilder.certId, .revoked 0 none, 0, none⟩
  member := by decide +kernel
  about := rfl
  isRevoked := rfl
  fresh := ⟨by decide, by decide⟩

def sampleConfig : RevocationConfig :=
  ⟨.ocspOnly, .failClosed, ⟨false, 60, 10⟩, ⟨60, 10, true⟩⟩

def sampleCheck : RevocationCheckingVerifier.Action Unit :=
  checkRevocation ⟨Sample.libraries, Sample.algorithms, sampleConfig, [], []⟩ sampleLeaf
    sampleRoot sampleOccasion

def sampleAnswers : (Answer : Type) → RevocationCheckingVerifier.Effect Answer → Unit → Answer × Unit
  | _, .cachedCrl _, _ => (none, ())
  | _, .cacheCrl _ _, _ => ((), ())
  | _, .cachedOcsp _, _ => (none, ())
  | _, .cacheOcsp _ _ _, _ => ((), ())
  | _, .verifyStatic _ _ _, _ => (.ok (), ())
  | _, .recordCrlNumber _ _ _, _ => (.ok (), ())
  | _, .fetchCrl _, _ => (.error (.fetchError "offline"), ())
  | _, .queryOcsp _ _, _ => (.ok sampleReport.responseDer, ())
  | _, .randomNonce, _ => (.fill 32 0, ())
  | _, .consulted _ _ _, _ => ((), ())

theorem sampleAnswers_answered (Answer : Type) (effect : RevocationCheckingVerifier.Effect Answer) (world : Unit) :
    sampleReport.Answered Answer effect world (sampleAnswers Answer effect world).1
      (sampleAnswers Answer effect world).2 := by
  cases effect with
  | cachedOcsp key | queryOcsp url request => exact rfl
  | randomNonce => exact nofun
  | _ => exact trivial

/-- The issuer has signed `good` and `revoked` for the same certificate, in this
order, and the certificate passes although checks fail closed. -/
theorem sampleReport_passes :
    sampleReport.basic.responses.map SingleResponse.status = [.good, .revoked 0 none] ∧ ¬ sampleReport.Rejected := by
  refine ⟨rfl, fun rejected => ?_⟩
  have passes : (eval sampleAnswers sampleCheck ()).1 = .ok () := by decide +kernel
  have run : ∃ after, Runs sampleReport.Answered sampleCheck () (.ok ()) after :=
    ⟨_, passes ▸ eval_runs sampleAnswers_answered sampleCheck ()⟩
  obtain ⟨after, run⟩ := run
  exact rejected sampleConfig [] [] (.ok ()) rfl rfl run rfl

end RevokedReport

end UsgRadius.Revocation
