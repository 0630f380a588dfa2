import UsgRadius.Eap.KeyRelease

namespace UsgRadius.Eap

open Data Method

namespace EapTeapServer

variable {Connection Handler : Type} {engine : TlsEngine Connection} {hmacs : Hmacs}
  {inner : InnerMethodHandler Handler}

/-- The call fails, and nothing is complete or released after it. -/
structure Refuses (hmacs : Hmacs) (result : Except EapError (Option Octets))
    (after : EapTeapServer Connection Handler) : Prop where
  fails : ∃ reason, result = .error reason
  incomplete : after.phase ≠ .complete
  unreleased : after.getMsk hmacs = none

variable {journal : List TeapEvent} {server : EapTeapServer Connection Handler} {tlvs : List TeapTlv}
  {random : Block 32}

theorem getMsk_eq_none (unanswered : server.peerResult = none) : server.getMsk hmacs = none := by
  cases released : server.getMsk hmacs with
  | none => rfl
  | some msk => cases unanswered.symm.trans (getMsk_eq_some released).2.2

theorem precheckTlv_refuses {tlv : TeapTlv} (unknown : tlv.UnknownMandatory) :
    (precheckTlv tlv : Step Connection Handler Unit) = fail .invalidResponseFormat := by
  simp [precheckTlv, unknown.2, unknown.1]

theorem precheck_refuses (unknown : ∃ tlv ∈ tlvs, tlv.UnknownMandatory) :
    (precheck tlvs : Step Connection Handler Unit).wp (fun result _ _ => ∃ reason, result = .error reason)
      journal server := by
  induction tlvs generalizing journal server with
  | nil =>
    obtain ⟨_, impossible, _⟩ := unknown
    cases impossible
  | cons tlv rest ih =>
    obtain ⟨other, listed, mandatory⟩ := unknown
    rcases List.mem_cons.mp listed with rfl | later
    · rw [precheck, precheckTlv_refuses mandatory, fail, wp_check_bind]
      exact ⟨fun _ impossible => (by cases impossible), fun reason _ => ⟨reason, rfl⟩⟩
    · apply wp_bind_of (precheckTlv_wp tlv)
      · intro _ middle between _
        exact ih ⟨other, later, mandatory⟩
      · intro reason _ _ _
        exact ⟨reason, rfl⟩

theorem processPhase2Tlvs_refuses (unknown : ∃ tlv ∈ tlvs, tlv.UnknownMandatory)
    (inTurn : server.phase = .phase2InnerAuth) (unanswered : server.peerResult = none) :
    (processPhase2Tlvs engine hmacs inner random tlvs).wp (fun result _ final => Refuses hmacs result final)
      journal server := by
  have filled : tlvs.isEmpty = false := by
    grind
  rw [processPhase2Tlvs, filled]
  apply wp_bind_of (wp_and (precheck_refuses unknown) (precheck_wp tlvs))
  · intro _ middle between ⟨⟨_, impossible⟩, _⟩
    cases impossible
  · intro reason middle between ⟨_, _, _, changed⟩
    subst changed
    exact ⟨⟨reason, rfl⟩, by simp [inTurn], getMsk_eq_none unanswered⟩

/-- While the acknowledgement is awaited, what decides is whether the message is
one, whatever else is in it. -/
theorem processResultAck_refuses_iff (awaited : server.phase = .phase2ResultSent)
    (unanswered : server.peerResult = none) :
    (processResultAck hmacs tlvs).wp (fun result after final => after = journal ∧
      (Refuses hmacs result final ↔ ∀ given, ¬ (observe journal server).Acknowledges hmacs tlvs given))
      journal server := by
  apply wp_mono (processResultAck_wp tlvs)
  intro result after final ⟨same, outcome⟩
  refine ⟨same, ?_⟩
  rcases outcome with ⟨given, _, _, acknowledges, _, changed⟩ | ⟨failed, rebound, invalid⟩
  · refine iff_of_false ?_ fun invalid => invalid given acknowledges
    intro refuses
    exact refuses.incomplete (by rw [changed])
  · refine iff_of_true ⟨failed, ?_, getMsk_eq_none ?_⟩ invalid
    · rcases rebound with rfl | ⟨_, _, _, _, rfl⟩
      · rw [awaited]
        simp
      · simp [awaited]
    · rcases rebound with rfl | ⟨_, _, _, _, rfl⟩
      · exact unanswered
      · exact unanswered

/-- After the handshake a packet is dropped for its header, or it is one of
Phase 2. -/
theorem processClientMessage_phase2 {delivery : Delivery}
    {post : Except EapError (Option Octets) → List TeapEvent → EapTeapServer Connection Handler → Prop}
    (known : server.peerVersion.isSome) (phase2 : server.phase = .phase2InnerAuth ∨ server.phase = .phase2ResultSent)
    (dropped : ∀ reason, post (.error reason) journal server)
    (processed : (processPhase2 engine hmacs inner delivery.packet.tls delivery.random).wp post journal server) :
    (processClientMessage engine hmacs inner delivery).wp post journal server := by
  have unchanged : (negotiate delivery.packet : Step Connection Handler Unit).wp
      (fun _ after final => after = journal ∧ final = server) journal server := by
    obtain ⟨version, found⟩ := Option.isSome_iff_exists.mp known
    rw [negotiate, wp_self_bind, found]
    dsimp only
    split
    · exact wp_fail.mpr ⟨rfl, rfl⟩
    · exact wp_pure.mpr ⟨rfl, rfl⟩
  apply wp_bind_of unchanged
  · intro _ middle between ⟨same, still⟩
    subst same still
    rw [wp_self_bind]
    rcases phase2 with phase | phase <;> rw [phase] <;> exact processed
  · intro reason middle between ⟨same, still⟩
    subst same still
    exact dropped reason

theorem processPhase2_refuses_iff {packet : EapTlsPacket} (unknown : ∃ tlv ∈ tlvs, tlv.UnknownMandatory)
    (phase2 : server.phase = .phase2InnerAuth ∨ server.phase = .phase2ResultSent)
    (unanswered : server.peerResult = none) :
    (processPhase2 engine hmacs inner packet random).wp (fun result after final => .received tlvs ∈ after →
      (Refuses hmacs result final ↔ server.phase = .phase2InnerAuth ∨
        ∀ given, ¬ (observe journal server).Acknowledges hmacs tlvs given)) [] server := by
  apply processPhase2_rule
  · intro _ _ _ impossible
    cases impossible
  · intro _ _ _ impossible
    cases impossible
  · intro between _ _ heard
    have opens : Reacts engine hmacs inner IsQuiet (openPhase2 engine inner) _ [] between := openPhase2_reacts
    obtain ⟨_, ⟨events, noted, quiet⟩, _⟩ := reacts_kept opens
    rw [noted] at heard
    exact False.elim (quiet (.received tlvs) heard).1
  · intro message between carried _
    have phase : between.phase = server.phase := congrArg Conversation.phase (observe_carried journal carried)
    have answer : between.peerResult = none :=
      (congrArg Conversation.peerResult (observe_carried journal carried)).trans unanswered
    split
    · rename_i awaited
      apply wp_mono (processResultAck_refuses_iff awaited answer)
      intro result after final ⟨same, refuses⟩ heard
      rw [same] at heard
      cases TeapEvent.received.inj (List.mem_singleton.mp heard)
      rw [refuses]
      have running : server.phase ≠ .phase2InnerAuth := by
        rw [← phase, awaited]
        simp
      have seen := observe_carried [TeapEvent.received tlvs] carried
      refine ⟨fun invalid => .inr fun given acknowledges => ?_, fun invalid given acknowledges => ?_⟩
      · apply invalid given
        rw [List.nil_append, seen]
        exact acknowledges.congr rfl rfl rfl rfl
      · rw [List.nil_append, seen] at acknowledges
        exact (invalid.resolve_left running) given (acknowledges.congr rfl rfl rfl rfl)
    · rename_i running
      have inTurn : server.phase = .phase2InnerAuth :=
        phase2.resolve_right fun awaited => running (phase.trans awaited)
      intro heard
      have reacts : Reacts engine hmacs inner IsReaction (processPhase2Tlvs engine hmacs inner random message) _
        ([] ++ [.received message]) between := processPhase2Tlvs_reacts (phase.trans inTurn) (by simp)
      obtain ⟨_, ⟨events, noted, reactions⟩, _⟩ := reacts_kept reacts
      have same : tlvs = message := by
        rcases List.mem_append.mp (noted ▸ heard) with first | later
        · exact TeapEvent.received.inj (List.mem_singleton.mp first)
        · exact False.elim (reactions _ later)
      subst same
      have refused : (processPhase2Tlvs engine hmacs inner random tlvs).wp _ [] between :=
        processPhase2Tlvs_refuses unknown (phase.trans inTurn) answer
      exact iff_of_true refused (.inl inTurn)

/-- A message with a mandatory TLV of an unknown type is refused exactly when
the inner method is running or the message is no valid acknowledgement of the
result: the acknowledgement itself is never searched for such TLVs. -/
theorem unknownMandatory_refused_iff {innerMethod : Option Handler} {rounds : Nat} {opened : Except String Connection}
    {delivery : Delivery} (reached : Reaches engine hmacs inner (started innerMethod rounds opened) journal server)
    (phase2 : server.phase = .phase2InnerAuth ∨ server.phase = .phase2ResultSent)
    (heard : .received tlvs ∈ ((processClientMessage engine hmacs inner delivery).run server).events)
    (unknown : ∃ tlv ∈ tlvs, tlv.UnknownMandatory) :
    Refuses hmacs ((processClientMessage engine hmacs inner delivery).run server).result
        ((processClientMessage engine hmacs inner delivery).run server).state ↔
      server.phase = .phase2InnerAuth ∨
        ∀ given, ¬ (observe journal server).Acknowledges hmacs tlvs given := by
  have sound := sound_reached reached
  have later : server.phase ≠ .phase1TlsHandshake ∧ server.phase ≠ .complete := by
    rcases phase2 with phase | phase <;> simp [phase]
  have spec : (processClientMessage engine hmacs inner delivery).wp (fun result after final =>
      .received tlvs ∈ after → (Refuses hmacs result final ↔ server.phase = .phase2InnerAuth ∨
        ∀ given, ¬ (observe journal server).Acknowledges hmacs tlvs given)) [] server := by
    apply processClientMessage_phase2 (sound.tunnelled later.1).1 phase2
    · intro _ impossible
      cases impossible
    · exact processPhase2_refuses_iff unknown phase2 (sound.awaiting later.2)
  exact spec heard

section Sample

/-- A mandatory TLV of a type that is not assigned. -/
def sampleUnknown : TeapTlv where
  tlvType := 100
  mandatory := true
  value := []

/-- The sample run after its first packets. -/
def sampleAfter (packets : Nat) : List TeapEvent × PasswordServer :=
  runAll (processClientMessage .plain .checksum basicPasswordAuth) (sampleDeliveries.take packets) [] sampleStart

theorem sampleAfter_reached (packets : Nat) :
    Reaches .plain .checksum basicPasswordAuth sampleStart (sampleAfter packets).1 (sampleAfter packets).2 :=
  Calls.start.runAll _

/-- What the packet with these TLVs does after `packets` of the sample run. -/
def sampleOutcome (packets : Nat) (tlvs : List TeapTlv) :
    Outcome PasswordServer TeapEvent EapError (Option Octets) :=
  (processClientMessage .plain .checksum basicPasswordAuth (sampleDelivery (TeapTlv.encodeTlvs tlvs))).run
    (sampleAfter packets).2

/-- While the inner method runs, the unknown TLV is refused. -/
theorem sampleUnknown_refused :
    Refuses .checksum (sampleOutcome 1 [sampleUnknown]).result (sampleOutcome 1 [sampleUnknown]).state := by
  have inTurn : (sampleAfter 1).2.phase = .phase2InnerAuth := by decide +kernel
  have heard : .received [sampleUnknown] ∈ (sampleOutcome 1 [sampleUnknown]).events := by decide +kernel
  exact (unknownMandatory_refused_iff (sampleAfter_reached 1) (.inl inTurn) heard
    ⟨sampleUnknown, by decide, by decide⟩).mpr (.inl inTurn)

/-- In the acknowledgement the unknown TLV goes unnoticed: the conversation is
complete and its key released. -/
theorem sampleUnknown_accepted :
    Reaches .plain .checksum basicPasswordAuth sampleStart (sampleAfter 2).1 (sampleAfter 2).2 ∧
      (sampleAfter 2).2.phase = .phase2ResultSent ∧
      .received (sampleAcknowledgement ++ [sampleUnknown]) ∈
        (sampleOutcome 2 (sampleAcknowledgement ++ [sampleUnknown])).events ∧
      sampleUnknown.UnknownMandatory ∧
      (sampleOutcome 2 (sampleAcknowledgement ++ [sampleUnknown])).result.isOk = true ∧
      (sampleOutcome 2 (sampleAcknowledgement ++ [sampleUnknown])).state.phase = .complete ∧
      ((sampleOutcome 2 (sampleAcknowledgement ++ [sampleUnknown])).state.getMsk .checksum).isSome = true :=
  ⟨sampleAfter_reached 2, by decide +kernel⟩

end Sample

end EapTeapServer

end UsgRadius.Eap
