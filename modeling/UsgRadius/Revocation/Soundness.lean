import UsgRadius.Revocation.Checks

namespace UsgRadius.Revocation

open Data Program

/-! A chain that passes while checks fail closed has evidence for every link, and
a consulted source that says that a certificate is revoked is heeded. -/

def Source.revokes (libraries : Libraries) (certDer : Octets) : Source → Bool
  | .crl info => (libraries.parseX509Certificate certDer).toOption.any fun cert => info.isRevoked cert.serial
  | .ocsp response => response.status == .successful && response.isRevoked

namespace RevocationCheckingVerifier

variable {verifier : RevocationCheckingVerifier} {now : Occasion} {certDer issuerDer : Octets} {cert : X509Certificate}

def hearing (verifier : RevocationCheckingVerifier) : Protocol Effect Bool where
  permits _ _ _ := True
  advance heard _ effect _ :=
    match effect with
    | .consulted .link certDer source => heard || source.revokes verifier.libraries certDer
    | _ => heard
  rests _ := True

def Heeded {Value : Type} (role : Role) (heard : Bool) (outcome : Fallible Value) : Prop :=
  heard = true → role = .link ∧ ∃ serial, outcome = .error (.certificateRevoked serial)

section Hearing

variable {Value Next : Type} {role : Role} {heard : Bool} {program : Action Value} {next : Value → Action Next}

theorem heeded_false {outcome : Fallible Value} : Heeded role false outcome := nofun

theorem follows_any (program : Action Value) : (hearing verifier).Follows (fun _ _ => True) heard program := by
  induction program generalizing heard with
  | done outcome => trivial
  | perform effect next ih => exact ⟨trivial, fun answer => ih answer⟩

theorem heeds_bind (first : (hearing verifier).Follows (Heeded role) false program)
    (rest : ∀ value, (hearing verifier).Follows (Heeded role) false (next value)) :
    (hearing verifier).Follows (Heeded role) false (program >>= next) := by
  apply Protocol.Follows.bind
  refine first.mono ?_
  intro heard outcome heeded
  cases outcome with
  | error reason =>
    intro isHeard
    obtain ⟨isLink, serial, isRevoked⟩ := heeded isHeard
    cases isRevoked
    exact ⟨isLink, serial, rfl⟩
  | ok value =>
    cases heard with
    | false => exact rest value
    | true =>
      obtain ⟨_, _, failed⟩ := heeded rfl
      cases failed

theorem heeds_attempt {post : Bool → Fallible Next → Prop} {next : Fallible Value → Action Next}
    (first : (hearing verifier).Follows (Heeded role) false program)
    (quiet : ∀ result, (hearing verifier).Follows post false (next result)) (revoked : role = .link → ∀ serial,
      (hearing verifier).Follows post true (next (.error (.certificateRevoked serial)))) :
    (hearing verifier).Follows post false (attempt program >>= next) := by
  apply Protocol.Follows.bind
  apply Protocol.Follows.attempt
  refine first.mono ?_
  intro heard result heeded
  cases heard with
  | false => exact quiet result
  | true =>
    obtain ⟨isLink, serial, rfl⟩ := heeded rfl
    exact revoked isLink serial

theorem quiet_bind (quiet : (hearing verifier).Follows (fun after _ => after = false) false program)
    (rest : ∀ value, (hearing verifier).Follows (Heeded role) false (next value)) :
    (hearing verifier).Follows (Heeded role) false (program >>= next) :=
  quiet.stay (fun _ => heeded_false) rest

theorem check_bind {result : Fallible Value}
    (rest : ∀ value, result = .ok value → (hearing verifier).Follows (Heeded role) false (next value)) :
    (hearing verifier).Follows (Heeded role) false (check result >>= next) :=
  Protocol.Follows.check (fun _ => heeded_false) rest

end Hearing

theorem acceptCrl_quiet (crl : CrlInfo) (issuerSpki : Octets) :
    (hearing verifier).Follows (fun after _ => after = false) false (verifier.acceptCrl crl issuerSpki now) :=
  .check (fun _ => rfl) fun _ _ => .ask trivial fun _ => rfl

theorem acceptStaticCrl_quiet (index : Nat) (crl : StaticCrl verifier.libraries) (issuerSpki : Octets) :
    (hearing verifier).Follows (fun after _ => after = false) false
      (verifier.acceptStaticCrl index crl issuerDer issuerSpki now) :=
  .ask trivial fun _ => .check (fun _ => rfl) fun _ _ => acceptCrl_quiet crl.info issuerSpki

theorem usableCachedCrl_quiet (url : String) (issuerName issuerSpki : Octets) :
    (hearing verifier).Follows (fun after _ => after = false) false
      (verifier.usableCachedCrl url issuerName issuerSpki now) := by
  refine .ask trivial fun found => ?_
  cases found with
  | none => exact rfl
  | some crl =>
    simp only
    split
    · apply Protocol.Follows.bind
      apply Protocol.Follows.attempt
      refine (acceptCrl_quiet crl issuerSpki).mono ?_
      intro heard result still
      subst still
      cases result <;> exact rfl
    · exact rfl

theorem fetchAcceptedCrl_quiet (url : String) (issuerSpki : Octets) :
    (hearing verifier).Follows (fun after _ => after = false) false
      (verifier.fetchAcceptedCrl url issuerDer issuerSpki now) := by
  unfold fetchAcceptedCrl
  split
  · refine .ask trivial fun fetched => .check (fun _ => rfl) fun _ _ => .check (fun _ => rfl) fun _ _ =>
      .check (fun _ => rfl) fun _ _ => ?_
    exact (acceptCrl_quiet _ issuerSpki).stay (fun _ => rfl) fun _ => rfl
  · exact rfl

section Queries

variable {query : Query} (read : verifier.libraries.parseX509Certificate query.certDer = .ok cert)
  (serial : query.serial = cert.serial)
include read serial

theorem lookup_heeded (crl : CrlInfo) :
    Heeded query.role ((hearing verifier).advance false Unit (.consulted query.role query.certDer (.crl crl)) ())
      (lookup crl query.serial) := by
  cases role : query.role with
  | responder => exact heeded_false
  | link =>
    intro isHeard
    simp only [hearing, Bool.false_or, Source.revokes, read, Except.toOption, Option.any_some, ← serial] at isHeard
    have listed : lookup crl query.serial = .error (revoked query.serial) := if_pos isHeard
    exact ⟨rfl, _, listed⟩

theorem checkCrlFromUrl_heeds (url : String) :
    (hearing verifier).Follows (Heeded query.role) false (verifier.checkCrlFromUrl query url) := by
  apply quiet_bind (usableCachedCrl_quiet url query.issuerName query.issuerSpki)
  intro found
  cases found with
  | some crl => exact .ask trivial fun _ => lookup_heeded read serial crl
  | none =>
    apply quiet_bind (fetchAcceptedCrl_quiet url query.issuerSpki)
    intro crl
    exact .ask trivial fun _ => .ask trivial fun _ => lookup_heeded read serial crl

theorem crlFromUrls_heeds (lastError : Option RevocationError) (urls : List String) :
    (hearing verifier).Follows (Heeded query.role) false (verifier.crlFromUrls query lastError urls) := by
  induction urls generalizing lastError with
  | nil => exact heeded_false
  | cons url urls ih =>
    apply heeds_attempt (checkCrlFromUrl_heeds read serial url)
    · intro result
      split
      · exact heeded_false
      · exact heeded_false
      · exact ih _
    · exact fun isLink serial _ => ⟨isLink, serial, rfl⟩

theorem crlFromStatic_heeds (lastError : Option RevocationError) (crls : List (StaticCrl verifier.libraries × Nat)) :
    (hearing verifier).Follows (Heeded query.role) false (verifier.crlFromStatic query lastError crls) := by
  induction crls generalizing lastError with
  | nil =>
    unfold crlFromStatic crlFromDistributionPoints
    split
    · split
      · exact heeded_false
      · exact crlFromUrls_heeds read serial lastError _
    · exact heeded_false
  | cons entry crls ih =>
    obtain ⟨crl, index⟩ := entry
    apply Protocol.Follows.bind
    apply Protocol.Follows.attempt
    refine (acceptStaticCrl_quiet index crl query.issuerSpki).mono ?_
    intro heard result still
    subst still
    cases result with
    | error reason => exact ih _
    | ok value => exact .ask trivial fun _ => lookup_heeded read serial crl.info

end Queries

theorem crlStatus_heeds (role : Role) :
    (hearing verifier).Follows (Heeded role) false (verifier.crlStatus role certDer issuerDer now) := by
  apply check_bind
  intro names extracted
  apply check_bind
  intro issuerSpki _
  unfold extractIssuerAndSerial at extracted
  split at extracted
  · cases extracted
  · rename_i cert read
    cases extracted
    exact @crlFromStatic_heeds verifier cert ⟨role, certDer, issuerDer, cert.issuer, cert.serial, issuerSpki,
      now.about certDer issuerDer⟩ read rfl none _

theorem checkAuthorization_quiet (authorization : ResponderAuthorization) :
    (hearing verifier).Follows (fun after _ => after = false) false
      (verifier.checkAuthorization authorization issuerDer now) := by
  unfold checkAuthorization
  split
  · unfold checkResponderCertificate
    split
    · apply heeds_attempt (crlStatus_heeds .responder)
      · intro result
        split <;> exact rfl
      · exact nofun
    · exact rfl
  · exact rfl

theorem evaluateOcspResponse_quiet (responseDer : Octets) (certId : CertId) (nonce : Option Octets) :
    (hearing verifier).Follows (fun after _ => after = false) false
      (verifier.evaluateOcspResponse responseDer certId issuerDer nonce now) :=
  .check (fun _ => rfl) fun _ _ => .check (fun _ => rfl) fun _ _ =>
    (checkAuthorization_quiet _).stay (fun _ => rfl) fun _ => rfl

theorem checkOcspResponseStatus_heeded (response : OcspResponse) :
    Heeded .link ((hearing verifier).advance false Unit (.consulted .link certDer (.ocsp response)) ())
      (checkOcspResponseStatus response) := by
  intro isHeard
  simp only [hearing, Bool.false_or, Source.revokes, OcspResponse.isRevoked, Bool.and_eq_true, beq_iff_eq,
    Option.any_eq_true] at isHeard
  obtain ⟨successful, status, held, isRevoked⟩ := isHeard
  refine ⟨rfl, "Certificate revoked (OCSP)", ?_⟩
  cases status with
  | good | unknown => cases isRevoked
  | revoked time reason => simp [checkOcspResponseStatus, successful, held]

theorem ocspStatus_heeds :
    (hearing verifier).Follows (Heeded .link) false (verifier.ocspStatus certDer issuerDer now) := by
  unfold ocspStatus
  split
  · apply check_bind
    intro builder _
    refine quiet_bind (.ask trivial fun found => ?_) fun found => ?_
    · cases found <;> exact rfl
    · cases found with
      | some response => exact .ask trivial fun _ => checkOcspResponseStatus_heeded response
      | none =>
        apply check_bind
        intro url _
        refine quiet_bind ?_ fun nonce => .ask trivial fun fetched => check_bind fun responseDer _ => ?_
        · unfold drawNonce
          split
          · exact .ask trivial fun _ => rfl
          · exact rfl
        · apply quiet_bind (evaluateOcspResponse_quiet responseDer builder.certId nonce)
          intro answer
          obtain ⟨response, cacheable⟩ := answer
          refine .ask trivial fun _ => ?_
          cases cacheable with
          | false => exact checkOcspResponseStatus_heeded response
          | true => exact .ask trivial fun _ => @checkOcspResponseStatus_heeded verifier certDer response
  · exact heeded_false

theorem settle_heeds {status : Action Unit} (heeds : (hearing verifier).Follows (Heeded .link) false status) :
    (hearing verifier).Follows (Heeded .link) false (verifier.settle status) := by
  apply heeds_attempt heeds
  · intro result
    split
    · exact heeded_false
    · exact heeded_false
    · unfold handleError
      split <;> exact heeded_false
  · exact fun _ serial _ => ⟨rfl, serial, rfl⟩

theorem combine_revoked (serial : String) (other : Fallible Unit) :
    (∃ text, combine (.error (.certificateRevoked serial)) other = .error (.certificateRevoked text)) ∧
      ∃ text, combine other (.error (.certificateRevoked serial)) = .error (.certificateRevoked text) := by
  refine ⟨⟨_, rfl⟩, ?_⟩
  cases other with
  | ok value => exact ⟨_, rfl⟩
  | error reason => cases reason <;> exact ⟨_, rfl⟩

theorem checkRevocation_heeds :
    (hearing verifier).Follows (Heeded .link) false (verifier.checkRevocation certDer issuerDer now) := by
  have byCrl : (hearing verifier).Follows (Heeded .link) false (verifier.checkCrl certDer issuerDer now) :=
    settle_heeds (crlStatus_heeds .link)
  unfold checkRevocation
  split
  · exact heeded_false
  · exact settle_heeds ocspStatus_heeds
  · exact byCrl
  · apply heeds_attempt ocspStatus_heeds
    · intro result
      split
      · exact heeded_false
      · exact heeded_false
      · exact byCrl
    · exact fun _ serial _ => ⟨rfl, serial, rfl⟩
  · apply heeds_attempt ocspStatus_heeds
    · intro ocspResult
      exact heeds_attempt byCrl (fun _ => heeded_false) fun _ serial _ => ⟨rfl, (combine_revoked serial ocspResult).2⟩
    · intro _ serial
      apply Protocol.Follows.bind
      apply Protocol.Follows.attempt
      exact (follows_any _).mono fun heard crlResult _ _ => ⟨rfl, (combine_revoked serial crlResult).1⟩

theorem checkLinks_heeds (checked pairs : List (Octets × Octets)) :
    (hearing verifier).Follows (Heeded .link) false (verifier.checkLinks now checked pairs) := by
  induction pairs generalizing checked with
  | nil => exact heeded_false
  | cons pair pairs ih =>
    unfold checkLinks
    split
    · exact ih checked
    · exact heeds_bind checkRevocation_heeds fun _ => ih _

theorem checkChain_heeds (chain : Presented) :
    (hearing verifier).Follows (Heeded .link) false
      (verifier.checkChain chain.endEntity chain.intermediates chain.now) := by
  unfold checkChain
  split
  · exact heeded_false
  · split
    · exact checkLinks_heeds [] _
    · exact heeded_false
    · unfold handleError
      split <;> exact heeded_false

/-- Any answers, and what is heard of a certificate of the chain. -/
def Hears (verifier : RevocationCheckingVerifier) : Semantics Effect Bool :=
  fun Answer effect heard answer after => after = (hearing verifier).advance heard Answer effect answer

/-- From empty caches on, a chain that passes while checks fail closed is cleared;
and whatever the fallback, a chain does not pass once a consulted source has
said that one of its certificates is revoked. -/
theorem checkChain_sound (verifier : RevocationCheckingVerifier) (clock : Nat) :
    (∀ pool, (handshakes verifier).Reaches (fun _ _ _ _ => true) ⟨.initial clock, []⟩ pool →
      verifier.config.checkMode ≠ .disabled → verifier.config.fallbackBehavior = .failClosed →
      ∀ thread ∈ pool.threads, thread.program = .done (.ok ()) →
        Cleared verifier pool.world.accepted thread.task) ∧
    ∀ (chain : Presented) outcome,
      Runs (Hears verifier) (verifier.checkChain chain.endEntity chain.intermediates chain.now) false outcome true →
        ∃ serial, outcome = .error (.certificateRevoked serial) := by
  refine ⟨?_, ?_⟩
  · intro pool reached enabled closed thread member finished
    have own := (handshakes_assured reached).2 thread member
    rw [finished] at own
    exact own () rfl ⟨enabled, closed⟩
  · intro chain outcome run
    exact ((checkChain_heeds chain).runs run rfl).2

/-- A root that is configured with its CRL, and nothing is fetched. -/
def sampleVerifier (revoked : List UInt8) : RevocationCheckingVerifier where
  libraries := Sample.libraries
  algorithms := Sample.algorithms
  config := ⟨.crlOnly, .failClosed, ⟨false, 60, 10⟩, ⟨60, 10, false⟩⟩
  staticCrls := (loadStaticCrl Sample.libraries "root.crl" (.ok (Sample.crl 1 5 1 revoked))).toOption.toList
  issuerCerts := [Sample.certificate 1 1 1 1 1 1]

def sampleChain : Presented :=
  ⟨Sample.certificate 4 1 4 7 0 1, [], ⟨Sample.epoch, 1, ([], [])⟩⟩

def sampleAround : Around :=
  ⟨0, 0, [], [], .error (.fetchError "offline"), .fill 32 0⟩

def hasPassed : List (Thread Effect RevocationError Presented) → Bool
  | [⟨_, .done (.ok ())⟩] => true
  | _ => false

def sampleHearing (Answer : Type) (effect : Effect Answer) (heard : Bool) : Answer × Bool :=
  let answer := ((sampleVerifier [7]).performIn sampleAround Answer effect (.initial 0)).1
  (answer, (hearing (sampleVerifier [7])).advance heard Answer effect answer)

/-- The leaf passes when the CRL does not list it, and is revoked when it does. -/
theorem sampleChain_sound :
    (∃ pool thread, (handshakes (sampleVerifier [])).Reaches (fun _ _ _ _ => true) ⟨.initial 0, []⟩ pool ∧
      thread ∈ pool.threads ∧ thread.program = .done (.ok ()) ∧
      Cleared (sampleVerifier []) pool.world.accepted thread.task) ∧
    ∃ outcome serial, Runs (Hears (sampleVerifier [7]))
        ((sampleVerifier [7]).checkChain sampleChain.endEntity sampleChain.intermediates sampleChain.now)
        false outcome true ∧
      outcome = .error (.certificateRevoked serial) := by
  refine ⟨?_, ?_⟩
  · have ran : ((follow (handshakes (sampleVerifier [])) (fun _ _ _ _ => true) (sampleVerifier []).performIn
        (.start sampleChain :: List.replicate 3 (.act 0 sampleAround)) ⟨.initial 0, []⟩).elim false
        fun pool => hasPassed pool.threads) = true := by
      decide +kernel
    cases followed : follow (handshakes (sampleVerifier [])) (fun _ _ _ _ => true) (sampleVerifier []).performIn
        (.start sampleChain :: List.replicate 3 (.act 0 sampleAround)) ⟨.initial 0, []⟩ with
    | none => simp only [followed, Option.elim_none, Bool.false_eq_true] at ran
    | some pool =>
      simp only [followed, Option.elim_some] at ran
      unfold hasPassed at ran
      split at ran
      · rename_i chain threads
        have reached := follow_reaches performIn_performs followed
        have member : ⟨chain, .done (.ok ())⟩ ∈ pool.threads := threads ▸ List.mem_singleton_self _
        exact ⟨pool, _, reached, member, rfl,
          (checkChain_sound (sampleVerifier []) 0).1 pool reached (by decide) (by decide) _ member rfl⟩
      · cases ran
  · have answers (Answer : Type) (effect : Effect Answer) (heard : Bool) : Hears (sampleVerifier [7]) Answer effect heard
        (sampleHearing Answer effect heard).1 (sampleHearing Answer effect heard).2 := rfl
    have run := eval_runs answers
      ((sampleVerifier [7]).checkChain sampleChain.endEntity sampleChain.intermediates sampleChain.now) false
    have heard : (eval sampleHearing
        ((sampleVerifier [7]).checkChain sampleChain.endEntity sampleChain.intermediates sampleChain.now) false).2 =
          true := by
      decide +kernel
    rw [heard] at run
    obtain ⟨serial, revoked⟩ := (checkChain_sound (sampleVerifier [7]) 0).2 sampleChain _ run
    exact ⟨_, serial, run, revoked⟩

end RevocationCheckingVerifier

end UsgRadius.Revocation
