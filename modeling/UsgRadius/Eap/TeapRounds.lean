import UsgRadius.Eap.KeyRelease

namespace UsgRadius.Eap

open Data Method

/-! How long a peer can keep Phase 2 going. A complete message counts as a
round, and a fragment fills the buffer of the assembler. -/

namespace EapTeapServer

section Bound

variable {Connection Handler : Type} (engine : TlsEngine Connection) (hmacs : Hmacs)
  (inner : InnerMethodHandler Handler)

def inPhase2 (server : EapTeapServer Connection Handler) : Bool :=
  server.phase == .phase2InnerAuth || server.phase == .phase2ResultSent

/-- How many packets are accepted in Phase 2 before the first one that is
refused. -/
def phase2Accepted : List Delivery → EapTeapServer Connection Handler → Nat
  | [], _ => 0
  | delivery :: later, server =>
    let outcome := (processClientMessage engine hmacs inner delivery).run server
    match outcome.result with
    | .error _ => 0
    | .ok _ => (if server.inPhase2 then 1 else 0) + phase2Accepted later outcome.state

variable {engine hmacs inner} {server : EapTeapServer Connection Handler} {journal : List TeapEvent}

/-- What an accepted packet of Phase 2 leaves: a longer buffer, or an empty one
and one more round. -/
structure Advances (server after : EapTeapServer Connection Handler) : Prop where
  limit : after.maxPhase2Rounds = server.maxPhase2Rounds
  fed : server.tlsServer.context.assembler.Fed → after.tlsServer.context.assembler.Fed
  progress : after.phase = server.phase ∧ after.phase2Rounds = server.phase2Rounds ∧
      server.tlsServer.context.assembler.fragments.length < after.tlsServer.context.assembler.fragments.length ∨
    after.phase2Rounds = min (server.phase2Rounds + 1) 0xffffffff ∧
      after.phase2Rounds ≤ server.maxPhase2Rounds ∧ after.tlsServer.context.assembler = .new

theorem advances_of_counted {between : EapTeapServer Connection Handler}
    {method : Step Connection Handler (Option Octets)} (carried : Carried server between) (counted : Counted server between)
    (kept : method.wp (fun _ _ final => reckoning final = reckoning between) journal between) :
    method.wp (fun result _ after => result.isOk = true → Advances server after) journal between := by
  apply wp_mono kept
  intro _ _ final same _
  obtain ⟨rounds, inLimit, empty⟩ := counted
  obtain ⟨tlsServer, phase2Rounds, rfl, _⟩ := carried
  simp only [reckoning, Prod.mk.injEq] at same
  rw [← same.1] at rounds inLimit
  rw [← same.2.2] at empty
  exact ⟨same.2.1, fun _ => empty ▸ TlsFragmentAssembler.fed_new, .inr ⟨rounds, inLimit, empty⟩⟩

theorem processPhase2_advances {packet : EapTlsPacket} {random : Block 32}
    (phase2 : server.phase = .phase2InnerAuth ∨ server.phase = .phase2ResultSent) :
    (processPhase2 engine hmacs inner packet random).wp (fun result _ after => result.isOk = true →
      Advances server after) journal server := by
  apply processPhase2_rule
  · intro _ _ _ impossible
    cases impossible
  · intro final carried longer _
    obtain ⟨tlsServer, phase2Rounds, rfl, _⟩ := carried
    exact ⟨rfl, longer.2.2, .inl ⟨rfl, longer.1, longer.2.1⟩⟩
  · intro between carried counted
    have opens : Reacts engine hmacs inner IsQuiet (openPhase2 engine inner) _ journal between := openPhase2_reacts
    exact advances_of_counted carried counted (wp_mono (reacts_kept opens) fun _ _ _ => And.left)
  · intro tlvs between carried counted
    have phase : between.phase = server.phase := congrArg Conversation.phase (observe_carried journal carried)
    apply advances_of_counted carried counted
    split
    next awaited =>
      have answered : Obeys engine hmacs inner (processResultAck hmacs tlvs) _ (journal ++ [.received tlvs]) between :=
        processResultAck_obeys awaited (by simp)
      exact wp_mono answered.ends fun _ _ _ => And.right
    next running =>
      rcases phase2 with inTurn | awaited
      · have reacts : Reacts engine hmacs inner IsReaction (processPhase2Tlvs engine hmacs inner random tlvs) _
            (journal ++ [.received tlvs]) between := processPhase2Tlvs_reacts (phase.trans inTurn) (by simp)
        exact wp_mono (reacts_kept reacts) fun _ _ _ => And.left
      · exact absurd (phase.trans awaited) running

theorem processClientMessage_advances (fed : server.tlsServer.context.assembler.Fed) (delivery : Delivery) :
    (processClientMessage engine hmacs inner delivery).wp (fun result _ after => result.isOk = true →
      after.tlsServer.context.assembler.Fed ∧ after.maxPhase2Rounds = server.maxPhase2Rounds ∧
      if server.inPhase2 then Advances server after else after.phase2Rounds = server.phase2Rounds) journal server := by
  have negotiates : Obeys engine hmacs inner (negotiate delivery.packet) _ journal server :=
    negotiate_obeys delivery.packet
  apply wp_bind_of negotiates.ends
  · intro _ middle negotiated ⟨_, phase, same, tlsServer, known⟩
    simp only [reckoning, Prod.mk.injEq] at same
    obtain ⟨rounds, limit, _⟩ := same
    rw [wp_self_bind]
    have advanced (phase2 : negotiated.phase = .phase2InnerAuth ∨ negotiated.phase = .phase2ResultSent) :
        (processPhase2 engine hmacs inner delivery.packet.tls delivery.random).wp (fun result _ after =>
          result.isOk = true → after.tlsServer.context.assembler.Fed ∧
            after.maxPhase2Rounds = server.maxPhase2Rounds ∧
            if server.inPhase2 then Advances server after else after.phase2Rounds = server.phase2Rounds)
          middle negotiated := by
      apply wp_mono (processPhase2_advances phase2)
      intro result _ after advances accepted
      have advances := advances accepted
      rw [if_pos (by simpa [inPhase2, ← phase] using phase2)]
      refine ⟨advances.fed (tlsServer ▸ fed), advances.limit.trans limit, advances.limit.trans limit,
        tlsServer ▸ advances.fed, ?_⟩
      simpa only [phase, rounds, limit, tlsServer] using advances.progress
    cases entered : negotiated.phase with
    | phase1TlsHandshake =>
      have shakes : Obeys engine hmacs inner (processPhase1 engine inner delivery.packet.tls) _ middle negotiated :=
        processPhase1_obeys entered (known _ rfl)
      apply wp_mono shakes.ends
      intro _ _ after uncounted _
      rw [if_neg (by simp [inPhase2, ← phase, entered])]
      exact ⟨uncounted.fed (tlsServer ▸ fed), uncounted.limit.trans limit, uncounted.rounds.trans rounds⟩
    | phase2InnerAuth => exact advanced (.inl entered)
    | phase2ResultSent => exact advanced (.inr entered)
    | complete => exact wp_fail.mpr fun impossible => by cases impossible
  · intro reason _ _ _ impossible
    cases impossible

/-- Every accepted packet of Phase 2 uses up one of the octets that the rounds
left and the buffer have room for. -/
theorem phase2Accepted_le (countable : server.maxPhase2Rounds < 0xffffffff)
    (fed : server.tlsServer.context.assembler.Fed) (deliveries : List Delivery) :
    phase2Accepted engine hmacs inner deliveries server ≤
      (server.maxPhase2Rounds - server.phase2Rounds) * 65537 +
        (65536 - if server.inPhase2 then server.tlsServer.context.assembler.fragments.length else 0) := by
  induction deliveries generalizing server with
  | nil => exact Nat.zero_le _
  | cons delivery later ih =>
    rw [phase2Accepted]
    have step := @processClientMessage_advances _ _ engine hmacs inner server [] fed delivery
    unfold wp at step
    generalize (processClientMessage engine hmacs inner delivery).run server = outcome at step ⊢
    obtain ⟨result, after, events⟩ := outcome
    cases result with
    | error reason => exact Nat.zero_le _
    | ok response =>
      dsimp only at step ⊢
      obtain ⟨still, limit, advances⟩ := step rfl
      have rest := ih (limit.trans_lt countable) still
      rw [limit] at rest
      split at advances
      next inPhase2 =>
        have room : _ ≤ 65536 := fed.length_le
        have full : _ ≤ 65536 := still.length_le
        rw [if_pos inPhase2, if_pos inPhase2]
        rcases advances.progress with ⟨phase, rounds, grows⟩ | ⟨rounds, inLimit, empty⟩
        · rw [rounds, if_pos (by simpa only [EapTeapServer.inPhase2, phase] using inPhase2)] at rest
          omega
        · omega
      next outside =>
        rw [advances] at rest
        rw [if_neg outside, if_neg outside]
        omega

/-- Phase 2 is bounded unless the limit is the one a saturating counter never
passes. -/
theorem phase2_bounded (engine : TlsEngine Connection) (hmacs : Hmacs) (inner : InnerMethodHandler Handler)
    (innerMethod : Option Handler) (rounds : Nat) (countable : rounds < 0xffffffff)
    (opened : Except String Connection) (deliveries : List Delivery) :
    phase2Accepted engine hmacs inner deliveries (started innerMethod rounds opened) ≤ (rounds + 1) * 65537 := by
  have limit : (started innerMethod rounds opened).maxPhase2Rounds = rounds := by
    cases opened <;> rfl
  have assembler : (started innerMethod rounds opened).tlsServer.context.assembler = .new := by
    cases opened <;> rfl
  have bound := @phase2Accepted_le _ _ engine hmacs inner (started innerMethod rounds opened) (limit.trans_lt countable)
    (assembler ▸ TlsFragmentAssembler.fed_new) deliveries
  rw [limit] at bound
  omega

end Bound

section Unlimited

/-- A TLV of a type nobody knows, which may be ignored. -/
def ignoredDelivery : Delivery :=
  sampleDelivery [0x3f, 0xff, 0, 0]

def sampleLimited (rounds : Nat) : PasswordServer :=
  started (some (.new "u" "p")) rounds (.ok ⟨true, [], []⟩)

theorem ignoredDeliveries_bounded :
    phase2Accepted .plain .checksum basicPasswordAuth (sampleDelivery [1] :: List.replicate 5 ignoredDelivery)
        (sampleLimited 3) = 3 ∧
      phase2Accepted .plain .checksum basicPasswordAuth (sampleDelivery [1] :: List.replicate 5 ignoredDelivery)
        (sampleLimited 3) ≤ 4 * 65537 :=
  ⟨by decide +kernel, phase2_bounded .plain .checksum basicPasswordAuth _ 3 (by decide) _ _⟩

def sampleCounted (rounds : Nat) : PasswordServer :=
  { ((processClientMessage .plain .checksum basicPasswordAuth (sampleDelivery [1])).run
      (sampleLimited 0xffffffff)).state with phase2Rounds := rounds }

theorem countPhase2Round_unlimited (rounds : Nat) :
    countPhase2Round.run (sampleCounted rounds) = ⟨.ok (), sampleCounted (min (rounds + 1) 0xffffffff), []⟩ := by
  have below : ¬ min (rounds + 1) 0xffffffff > 0xffffffff := by omega
  simp only [countPhase2Round, run_update_bind, run_self_bind]
  rw [if_neg]
  · rfl
  · exact below

theorem ignoredDelivery_run (rounds : Nat) :
    (processClientMessage .plain .checksum basicPasswordAuth ignoredDelivery).run (sampleCounted rounds) =
      ⟨.ok none, sampleCounted (min (rounds + 1) 0xffffffff),
        [.received [⟨0x3fff, false, []⟩]]⟩ := by
  have assembled : (onTls (EapTlsServer.onContext (EapTlsContext.processIncoming ignoredDelivery.packet.tls)) :
      Step _ BasicPasswordAuthHandler _).run (sampleCounted rounds) =
      ⟨.ok (some [0x3f, 0xff, 0, 0]), sampleCounted rounds, []⟩ := rfl
  have negotiated : (negotiate ignoredDelivery.packet).run (sampleCounted rounds) = ⟨.ok (), sampleCounted rounds, []⟩ :=
    rfl
  rw [processClientMessage, run_bind_of negotiated]
  change (processPhase2 .plain .checksum basicPasswordAuth ignoredDelivery.packet.tls ignoredDelivery.random).run
    (sampleCounted rounds) = _
  rw [processPhase2, if_neg (by decide), run_bind_of assembled]
  dsimp only
  rw [run_bind_of (countPhase2Round_unlimited rounds)]
  generalize min (rounds + 1) 0xffffffff = counted
  rfl

theorem ignoredDeliveries_accepted (count rounds : Nat) :
    phase2Accepted .plain .checksum basicPasswordAuth (List.replicate count ignoredDelivery) (sampleCounted rounds) =
      count := by
  induction count generalizing rounds with
  | zero => rfl
  | succ count ih =>
    rw [List.replicate_succ, phase2Accepted]
    simp only [ignoredDelivery_run, ih]
    exact Nat.add_comm 1 count

/-- With the largest limit there are more accepted packets than the bound
allows. -/
theorem phase2_unbounded :
    ¬ phase2Accepted .plain .checksum basicPasswordAuth
        (sampleDelivery [1] :: List.replicate ((0xffffffff + 1) * 65537 + 1) ignoredDelivery)
        (sampleLimited 0xffffffff) ≤ (0xffffffff + 1) * 65537 := by
  have opens (later : List Delivery) : phase2Accepted .plain .checksum basicPasswordAuth (sampleDelivery [1] :: later)
      (sampleLimited 0xffffffff) = phase2Accepted .plain .checksum basicPasswordAuth later (sampleCounted 0) :=
    Nat.zero_add _
  rw [opens, ignoredDeliveries_accepted]
  omega

end Unlimited

end EapTeapServer

end UsgRadius.Eap
