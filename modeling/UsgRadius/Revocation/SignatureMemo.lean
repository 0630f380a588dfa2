import UsgRadius.Revocation.Soundness

namespace UsgRadius.Revocation

open Data Program CrlInfo

/-! A CRL that has been verified with a key is not verified with it again, for
whichever certificate has the key. When this makes no difference. -/

namespace RevocationCheckingVerifier

variable {verifier : RevocationCheckingVerifier} {around : Around} {world : World} {now : Occasion} {issuerDer : Octets}
  {issuer : X509Certificate} {url : String}

def World.refreshed (world : World) : World :=
  { World.initial world.clock with crlNumbers := world.crlNumbers }

def succeeds (verifier : RevocationCheckingVerifier) {Value : Type} (around : Around) (program : Action Value)
    (world : World) : Bool :=
  (program.eval (verifier.performIn around) world).1.isOk

/-- What is remembered makes no difference. -/
def Transparent (verifier : RevocationCheckingVerifier) {Value : Type} (around : Around) (program : Action Value)
    (world : World) : Prop :=
  verifier.succeeds around program world = verifier.succeeds around program world.refreshed

/-- The CRL that a URL stands for, from the cache or from the network. -/
def crlFromUrl (verifier : RevocationCheckingVerifier) (url : String) (issuerDer : Octets) (issuer : X509Certificate)
    (now : Occasion) : Action CrlInfo := do
  match ← verifier.usableCachedCrl url issuer.subject issuer.spki now with
  | some crl => return crl
  | none => verifier.fetchAcceptedCrl url issuerDer issuer.spki now

/-- The CRL is current, and its number is not lower than one before. -/
def acceptable (verifier : RevocationCheckingVerifier) (crl : CrlInfo) (issuerSpki : Octets) (now : Occasion)
    (numbers : AList fun _ : Octets × Octets => Nat) : Bool :=
  (crl.validateCurrent verifier.libraries now.asSecs).isOk && (recordNumber crl issuerSpki numbers).1.isOk

theorem acceptCrl_outcome (crl : CrlInfo) (issuerSpki : Octets) :
    let outcome := (verifier.acceptCrl crl issuerSpki now).eval (verifier.performIn around) world
    outcome.1.isOk = verifier.acceptable crl issuerSpki now world.crlNumbers ∧
      (outcome.1.isOk = false → outcome.2.crlNumbers = world.crlNumbers) := by
  unfold acceptCrl acceptable
  cases valid : crl.validateCurrent verifier.libraries now.asSecs with
  | error reason => exact ⟨rfl, fun _ => rfl⟩
  | ok value =>
    simp only [check, ok_bind, ask_bind, eval_perform, eval_done, performIn, perform]
    split
    · rename_i numbers recorded
      simp [recorded, Except.isOk, Except.toBool]
    · rename_i reason numbers refused
      simp [refused, Except.isOk, Except.toBool, recordNumber_eq_error refused]

theorem succeeds_acceptCrl (crl : CrlInfo) (issuerSpki : Octets) :
    verifier.succeeds around (verifier.acceptCrl crl issuerSpki now) world =
      verifier.acceptable crl issuerSpki now world.crlNumbers :=
  (acceptCrl_outcome crl issuerSpki).1

theorem acceptCrl_refused {crl : CrlInfo} {issuerSpki : Octets}
    (refused : verifier.acceptable crl issuerSpki now world.crlNumbers = false) :
    ((verifier.acceptCrl crl issuerSpki now).eval (verifier.performIn around) world).2.crlNumbers = world.crlNumbers :=
  (acceptCrl_outcome crl issuerSpki).2 ((succeeds_acceptCrl crl issuerSpki).trans refused)

theorem succeeds_acceptStaticCrl (index : Nat) (crl : StaticCrl verifier.libraries) (issuerSpki : Octets) :
    verifier.succeeds around (verifier.acceptStaticCrl index crl issuerDer issuerSpki now) world =
      ((world.verifiedWith index == some issuerSpki || (verifier.staticVerdict crl issuerDer).isOk) &&
        verifier.acceptable crl.info issuerSpki now world.crlNumbers) := by
  have rest (after : World) (same : after.crlNumbers = world.crlNumbers) :
      ((verifier.acceptCrl crl.info issuerSpki now).eval (verifier.performIn around) after).1.isOk =
        verifier.acceptable crl.info issuerSpki now world.crlNumbers := by
    rw [← same]
    exact succeeds_acceptCrl crl.info issuerSpki
  simp only [succeeds, acceptStaticCrl, ask_bind, eval_perform, performIn, perform]
  by_cases known : world.verifiedWith index = some issuerSpki
  · simp only [known, if_true, beq_self_eq_true, Bool.true_or, Bool.true_and]
    exact rest world rfl
  · rw [if_neg known, beq_false_of_ne known, Bool.false_or]
    cases verdict : verifier.staticVerdict crl issuerDer with
    | error reason => rfl
    | ok spki => exact rest { world with verifiedWith := _ } rfl

theorem staticVerdict_isOk {crl : StaticCrl verifier.libraries}
    (read : verifier.libraries.parseX509Certificate issuerDer = .ok issuer) :
    (verifier.staticVerdict crl issuerDer).isOk = true ↔ issuer.subject = crl.info.issuerRaw ∧
      checkKeyUsage issuer = .ok () ∧ crl.info.verifyCrl verifier.algorithms issuer.spki crl.der = .ok () := by
  have same : (verifier.staticVerdict crl issuerDer).isOk =
      (crl.info.checkSignature verifier.libraries verifier.algorithms crl.der issuerDer).isOk := by
    unfold staticVerdict
    split
    · rename_i why refused
      rw [refused]
      rfl
    · rfl
  rw [same]
  refine ⟨?_, ?_⟩
  · intro passed
    obtain ⟨spki, verified⟩ := Results.exists_of_isOk passed
    obtain ⟨other, readOther, named, usage, signed, _⟩ := checkSignature_eq_ok.mp verified
    cases read.symm.trans readOther
    exact ⟨named, usage, signed⟩
  · intro ⟨named, usage, signed⟩
    rw [checkSignature_eq_ok.mpr ⟨issuer, read, named, usage, signed, rfl⟩]
    rfl

def usableCached (verifier : RevocationCheckingVerifier) (around : Around) (url : String) (issuer : X509Certificate)
    (now : Occasion) (world : World) : Option CrlInfo :=
  (CrlCache.get (world.clock + around.now) url world.crlCache).1.filter fun crl =>
    crl.isVerifiedBy issuer.spki && crl.issuerRaw == issuer.subject &&
      verifier.acceptable crl issuer.spki now world.crlNumbers

theorem eval_usableCachedCrl (url : String) :
    ∃ after, (verifier.usableCachedCrl url issuer.subject issuer.spki now).eval (verifier.performIn around) world =
        (.ok (verifier.usableCached around url issuer now world), after) ∧
      (verifier.usableCached around url issuer now world = none → after.crlNumbers = world.crlNumbers) := by
  unfold usableCachedCrl usableCached
  rw [ask_bind, eval_perform]
  generalize read : verifier.performIn around _ (.cachedCrl url) world = reply
  obtain ⟨found, between⟩ := reply
  simp only [performIn, perform, Prod.mk.injEq] at read
  obtain ⟨isFound, isBetween⟩ := read
  have numbers : between.crlNumbers = world.crlNumbers := by rw [← isBetween]
  rw [isFound]
  cases found with
  | none => exact ⟨between, rfl, fun _ => numbers⟩
  | some crl =>
    by_cases suits : (crl.isVerifiedBy issuer.spki && crl.issuerRaw == issuer.subject) = true
    · have own : ((verifier.acceptCrl crl issuer.spki now).eval (verifier.performIn around) between).1.isOk =
          verifier.acceptable crl issuer.spki now world.crlNumbers := numbers ▸ succeeds_acceptCrl crl issuer.spki
      simp only [suits, if_true, eval_bind, eval_attempt, Option.filter_some, Bool.true_and, ← own]
      cases accepted : (verifier.acceptCrl crl issuer.spki now).eval (verifier.performIn around) between with
      | mk outcome after =>
        cases outcome with
        | ok value => exact ⟨after, rfl, fun same => by cases same⟩
        | error reason =>
          refine ⟨after, rfl, fun _ => ?_⟩
          rw [accepted, ← numbers] at own
          have still := @acceptCrl_refused verifier around between now crl issuer.spki own.symm
          rw [accepted] at still
          exact still.trans numbers
    · simp only [Option.filter_some, suits, Bool.false_and, Bool.false_eq_true, if_false]
      exact ⟨between, rfl, fun _ => numbers⟩

def verifiedFetch (verifier : RevocationCheckingVerifier) (around : Around) (issuerDer : Octets) : Fallible CrlInfo := do
  let crlDer ← crlDerFromBytes verifier.libraries (← around.fetched)
  parseAndVerify verifier.libraries verifier.algorithms crlDer issuerDer

theorem verifiedFetch_eq_ok {crl : CrlInfo} : verifier.verifiedFetch around issuerDer = .ok crl ↔
    ∃ bytes crlDer, around.fetched = .ok bytes ∧ crlDerFromBytes verifier.libraries bytes = .ok crlDer ∧
      parseAndVerify verifier.libraries verifier.algorithms crlDer issuerDer = .ok crl := by
  simp [verifiedFetch, Results.bind_eq_ok]

theorem succeeds_fetchAcceptedCrl (url : String) (issuerSpki : Octets) :
    verifier.succeeds around (verifier.fetchAcceptedCrl url issuerDer issuerSpki now) world =
      (verifier.crlFetcher && (verifier.verifiedFetch around issuerDer).toOption.any fun crl =>
        verifier.acceptable crl issuerSpki now world.crlNumbers) := by
  unfold succeeds fetchAcceptedCrl verifiedFetch
  split
  · rename_i fetches
    simp only [fetches, Bool.true_and, ask_bind, eval_perform, performIn, perform]
    cases around.fetched with
    | error reason => rfl
    | ok bytes =>
      simp only [check, ok_bind, Results.ok_bind]
      cases crlDerFromBytes verifier.libraries bytes with
      | error reason => rfl
      | ok crlDer =>
        simp only [ok_bind, Results.ok_bind]
        cases parseAndVerify verifier.libraries verifier.algorithms crlDer issuerDer with
        | error reason => rfl
        | ok crl =>
          have own := @succeeds_acceptCrl verifier around world now crl issuerSpki
          simp only [succeeds] at own
          simp only [ok_bind, eval_bind, Except.toOption, Option.any_some, ← own]
          split <;> simp_all [Except.isOk, Except.toBool]
  · rename_i fetches
    rw [Bool.eq_false_of_not_eq_true fetches]
    rfl

theorem succeeds_crlFromUrl (url : String) :
    verifier.succeeds around (verifier.crlFromUrl url issuerDer issuer now) world =
      ((verifier.usableCached around url issuer now world).isSome ||
        (verifier.crlFetcher && (verifier.verifiedFetch around issuerDer).toOption.any fun crl =>
          verifier.acceptable crl issuer.spki now world.crlNumbers)) := by
  obtain ⟨after, evaluated, numbers⟩ := @eval_usableCachedCrl verifier around world now issuer url
  unfold succeeds crlFromUrl
  rw [eval_bind, evaluated]
  cases usable : verifier.usableCached around url issuer now world with
  | some crl => rfl
  | none =>
    rw [← numbers usable, Option.isSome_none, Bool.false_or]
    exact succeeds_fetchAcceptedCrl url issuer.spki

theorem usableCached_isSome :
    (verifier.usableCached around url issuer now world).isSome = true ↔
      ∃ entry, world.crlCache.lookup url = some entry ∧ entry.isExpired (world.clock + around.now) = false ∧
        entry.value.verifiedWith = some issuer.spki ∧ entry.value.issuerRaw = issuer.subject ∧
        verifier.acceptable entry.value issuer.spki now world.crlNumbers = true := by
  unfold usableCached CrlCache.get TtlCache.get
  cases held : world.crlCache.lookup url with
  | none => simp
  | some entry =>
    cases expired : entry.isExpired (world.clock + around.now) with
    | true => simp [expired]
    | false => simp [expired, isVerifiedBy, Option.isSome_filter, and_assoc]

section Transparent

variable (consistent : Consistent verifier world)
  (read : verifier.libraries.parseX509Certificate issuerDer = .ok issuer)
include consistent read

theorem static_transparent_iff {index : Nat} {crl : StaticCrl verifier.libraries}
    (held : verifier.staticCrls[index]? = some crl) :
    verifier.Transparent around (verifier.acceptStaticCrl index crl issuerDer issuer.spki now) world ↔
      (world.verifiedWith index = some issuer.spki →
        verifier.acceptable crl.info issuer.spki now world.crlNumbers = true →
        issuer.subject = crl.info.issuerRaw ∧ checkKeyUsage issuer = .ok ()) := by
  have afresh : (world.refreshed.verifiedWith index == some issuer.spki) = false := rfl
  have sameNumbers : world.refreshed.crlNumbers = world.crlNumbers := rfl
  rw [Transparent, succeeds_acceptStaticCrl, succeeds_acceptStaticCrl, afresh, sameNumbers, Bool.false_or]
  by_cases known : world.verifiedWith index = some issuer.spki
  · have signed := consistent.statics index issuer.spki known crl held
    have passes := @staticVerdict_isOk verifier issuerDer issuer crl read
    rw [known, beq_self_eq_true, Bool.true_or, Bool.true_and]
    cases acceptable : verifier.acceptable crl.info issuer.spki now world.crlNumbers with
    | false => simp
    | true => simp [passes, signed]
  · grind

/-- The network still serves what is cached for a URL. -/
def Unchanged (verifier : RevocationCheckingVerifier) (around : Around) (url : String) (world : World) : Prop :=
  ∀ entry, world.crlCache.lookup url = some entry → ∃ bytes crlDer parsed spki, around.fetched = .ok bytes ∧
    crlDerFromBytes verifier.libraries bytes = .ok crlDer ∧ parseDer verifier.libraries crlDer = .ok parsed ∧
    entry.value = { parsed with verifiedWith := some spki } ∧
    parsed.verifyCrl verifier.algorithms spki crlDer = .ok ()

theorem url_transparent_iff (unchanged : Unchanged verifier around url world) :
    verifier.Transparent around (verifier.crlFromUrl url issuerDer issuer now) world ↔
      ∀ entry, world.crlCache.lookup url = some entry → entry.isExpired (world.clock + around.now) = false →
        entry.value.verifiedWith = some issuer.spki → entry.value.issuerRaw = issuer.subject →
        verifier.acceptable entry.value issuer.spki now world.crlNumbers = true →
        checkKeyUsage issuer = .ok () := by
  have empty : (verifier.usableCached around url issuer now world.refreshed).isSome = false := rfl
  have sameNumbers : world.refreshed.crlNumbers = world.crlNumbers := rfl
  rw [Transparent, succeeds_crlFromUrl, succeeds_crlFromUrl, empty, sameNumbers, Bool.false_or, Bool.or_eq_right_iff_imp,
    usableCached_isSome]
  refine ⟨?_, ?_⟩
  · intro fetches entry held live known named acceptable
    have fetched := (Bool.and_eq_true_iff.mp (fetches ⟨entry, held, live, known, named, acceptable⟩)).2
    rw [Option.any_eq_true] at fetched
    obtain ⟨crl, isFetched, _⟩ := fetched
    obtain ⟨_, crlDer, _, _, verified⟩ := verifiedFetch_eq_ok.mp (Results.eq_ok_of_toOption isFetched)
    obtain ⟨_, _, _, signature, _⟩ := parseAndVerify_eq_ok.mp verified
    obtain ⟨other, readOther, _, usage, _⟩ := checkSignature_eq_ok.mp signature
    cases read.symm.trans readOther
    exact usage
  · intro permitted ⟨entry, held, live, known, named, acceptable⟩
    have usage := permitted entry held live known named acceptable
    obtain ⟨bytes, crlDer, parsed, spki, served, der, parses, isParsed, signed⟩ := unchanged entry held
    rw [isParsed] at known named acceptable
    cases known
    have verified : verifier.verifiedFetch around issuerDer = .ok { parsed with verifiedWith := some issuer.spki } :=
      verifiedFetch_eq_ok.mpr ⟨bytes, crlDer, served, der, parseAndVerify_eq_ok.mpr ⟨parsed, issuer.spki, parses,
        checkSignature_eq_ok.mpr ⟨issuer, read, named.symm, usage, signed, rfl⟩, rfl⟩⟩
    obtain ⟨_, _, _, fetches, _⟩ := consistent.crls ⟨url, entry⟩ (AList.mem_lookup_iff.mp held)
    rw [fetches, verified, Bool.true_and]
    exact acceptable

end Transparent

/-- After any history of handshakes, what is remembered of a static CRL or of a
cached one makes no difference for a certificate exactly if the CRL was not
verified with its key, would not be accepted anyhow, or is one that the
certificate may sign. -/
theorem acceptance_transparent_iff {clock : Nat} {pool : Pool Effect RevocationError Presented World}
    (reached : (handshakes verifier).Reaches (fun _ _ _ _ => true) ⟨.initial clock, []⟩ pool)
    (read : verifier.libraries.parseX509Certificate issuerDer = .ok issuer) (around : Around) (now : Occasion) :
    (∀ index crl, verifier.staticCrls[index]? = some crl →
      (verifier.Transparent around (verifier.acceptStaticCrl index crl issuerDer issuer.spki now) pool.world ↔
        (pool.world.verifiedWith index = some issuer.spki →
          verifier.acceptable crl.info issuer.spki now pool.world.crlNumbers = true →
          issuer.subject = crl.info.issuerRaw ∧ checkKeyUsage issuer = .ok ()))) ∧
    ∀ url, Unchanged verifier around url pool.world →
      (verifier.Transparent around (verifier.crlFromUrl url issuerDer issuer now) pool.world ↔
        ∀ entry, pool.world.crlCache.lookup url = some entry →
          entry.isExpired (pool.world.clock + around.now) = false →
          entry.value.verifiedWith = some issuer.spki → entry.value.issuerRaw = issuer.subject →
          verifier.acceptable entry.value issuer.spki now pool.world.crlNumbers = true →
          checkKeyUsage issuer = .ok ()) := by
  have consistent := (handshakes_assured reached).1
  exact ⟨fun index crl held => static_transparent_iff consistent read held,
    fun url unchanged => url_transparent_iff consistent read unchanged⟩

def sampleHistory : List (Turn Presented Around) :=
  .start sampleChain :: List.replicate 3 (.act 0 sampleAround)

/-- The root certificate with and without cRLSign. -/
def sampleSigner : Octets := Sample.certificate 1 1 1 1 1 1

def sampleNonSigner : Octets := Sample.certificate 1 1 1 2 2 1

def acceptedFor (issuerDer : Octets) (world : World) : Option (Bool × Bool) :=
  (sampleVerifier []).staticCrls[0]?.map fun crl =>
    let accept := (sampleVerifier []).acceptStaticCrl 0 crl issuerDer (Sample.spki 1) sampleChain.now
    ((sampleVerifier []).succeeds sampleAround accept world,
      (sampleVerifier []).succeeds sampleAround accept world.refreshed)

theorem sampleSigner_transparent : ∃ pool,
    (handshakes (sampleVerifier [])).Reaches (fun _ _ _ _ => true) ⟨.initial 0, []⟩ pool ∧
    ∀ crl, (sampleVerifier []).staticCrls[0]? = some crl → (sampleVerifier []).Transparent sampleAround
      ((sampleVerifier []).acceptStaticCrl 0 crl sampleSigner (Sample.spki 1) sampleChain.now) pool.world := by
  have follows : (follow (handshakes (sampleVerifier [])) (fun _ _ _ _ => true) (sampleVerifier []).performIn
      sampleHistory ⟨.initial 0, []⟩).isSome = true := by
    decide +kernel
  obtain ⟨pool, followed⟩ := Option.isSome_iff_exists.mp follows
  have reached := follow_reaches performIn_performs followed
  have read : (sampleVerifier []).libraries.parseX509Certificate sampleSigner =
      .ok (Sample.readCertificate 1 1 1 1 1) := rfl
  refine ⟨pool, reached, fun crl held => ?_⟩
  apply ((acceptance_transparent_iff reached read sampleAround sampleChain.now).1 0 crl held).mpr
  intro _ _
  have named : (sampleVerifier []).staticCrls[0]?.map (fun crl => crl.info.issuerRaw) = some [1] := by decide +kernel
  rw [held] at named
  exact ⟨(Option.some.inj named).symm, rfl⟩

theorem sampleNonSigner_differs : ∃ pool crl,
    (handshakes (sampleVerifier [])).Reaches (fun _ _ _ _ => true) ⟨.initial 0, []⟩ pool ∧
    (sampleVerifier []).staticCrls[0]? = some crl ∧ ¬ (sampleVerifier []).Transparent sampleAround
      ((sampleVerifier []).acceptStaticCrl 0 crl sampleNonSigner (Sample.spki 1) sampleChain.now) pool.world := by
  have differs : ((follow (handshakes (sampleVerifier [])) (fun _ _ _ _ => true) (sampleVerifier []).performIn
      sampleHistory ⟨.initial 0, []⟩).bind fun pool => acceptedFor sampleNonSigner pool.world) = some (true, false) := by
    decide +kernel
  obtain ⟨pool, followed, accepted⟩ := Option.bind_eq_some_iff.mp differs
  obtain ⟨crl, held, answers⟩ := Option.map_eq_some_iff.mp accepted
  refine ⟨pool, crl, follow_reaches performIn_performs followed, held, ?_⟩
  obtain ⟨remembering, afresh⟩ := Prod.mk.inj answers
  rw [Transparent, remembering, afresh]
  exact nofun

end RevocationCheckingVerifier

end UsgRadius.Revocation
