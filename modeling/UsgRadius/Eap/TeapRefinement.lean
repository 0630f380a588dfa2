import UsgRadius.Eap.Fragmentation
import UsgRadius.Eap.TeapConversation

namespace UsgRadius.Eap

open Data Method

namespace EapTeapServer

variable {Connection Handler Value : Type}

/-- The conversation a server is in. -/
def observe (journal : List TeapEvent) (server : EapTeapServer Connection Handler) : Conversation Handler where
  journal
  connected := server.tlsServer.connection.isSome
  phase := server.phase
  innerMethod := server.innerMethod
  cryptoBinding := server.cryptoBinding
  bound := server.cryptoBindingVerified
  sentResult := server.sentResult
  peerResult := server.peerResult
  version := server.peerVersion
  serverOuterTlvs := server.serverOuterTlvs
  peerOuterTlvs := server.peerOuterTlvs

theorem checkCryptoBindingResponse_eq_ok {hmacs : Hmacs} {binding : CryptoBinding}
    {serverOuterTlvs peerOuterTlvs : Octets} {response : CryptoBindingTlv} :
    checkCryptoBindingResponse hmacs binding serverOuterTlvs peerOuterTlvs response = .ok () ↔
      Conversation.Verifies hmacs binding serverOuterTlvs peerOuterTlvs response := by
  unfold checkCryptoBindingResponse
  refine ⟨?_, ?_⟩
  · intro passed
    split at passed
    · cases passed
    · rename_i header
      simp only [not_or, not_not] at header
      obtain ⟨version, receivedVersion, subType⟩ := header
      split at passed
      · cases passed
      · rename_i flags
        split at passed
        · cases passed
        · rename_i nonce
          split at passed
          · cases passed
          · rename_i mac
            rw [Bool.not_eq_true', Bool.not_eq_false, Auth.constantTimeEq_iff, Block.octets_inj] at mac
            exact ⟨version, receivedVersion, subType, not_not.mp flags, not_not.mp nonce, mac.symm⟩
  · intro verifies
    have mac : Auth.constantTimeEq
        (CryptoBinding.compoundMac hmacs binding.hash binding.cmk
          (response.macBuffer serverOuterTlvs peerOuterTlvs)).octets response.mskCompoundMac.octets = true :=
      Auth.constantTimeEq_iff.mpr (by rw [verifies.compoundMac])
    simp [verifies.version, verifies.receivedVersion, verifies.subType, verifies.flags, verifies.nonce, mac]

/-- Every event but the one that notes a message of the peer is something the
server does. -/
def IsReaction : TeapEvent → Prop
  | .received _ => False
  | _ => True

def isComparison : TeapEvent → Bool
  | .consulted tlv (.ok _) => tlv.getType == some .basicPasswordAuthResp
  | _ => false

def IsQuiet (event : TeapEvent) : Prop :=
  IsReaction event ∧ isComparison event = false

/-- What no reaction touches: the rounds of Phase 2, their limit and the
assembler. -/
def reckoning (server : EapTeapServer Connection Handler) : Nat × Nat × TlsFragmentAssembler :=
  (server.phase2Rounds, server.maxPhase2Rounds, server.tlsServer.context.assembler)

def sight (journal : List TeapEvent) (server : EapTeapServer Connection Handler) :
    Conversation Handler × Nat × Nat × TlsFragmentAssembler :=
  (observe journal server, reckoning server)

section Refinement

variable {engine : TlsEngine Connection} {hmacs : Hmacs} {inner : InnerMethodHandler Handler}
  {allowed : TeapEvent → Prop} {method : Step Connection Handler Value}
  {post : Except EapError Value → List TeapEvent → EapTeapServer Connection Handler → Prop} {journal : List TeapEvent}
  {server after : EapTeapServer Connection Handler} {reliable : Prop} {Holds : TlsFragmentAssembler → Prop}
  {handler : Handler} {tlv : TeapTlv} {next : Except EapError TeapTlv → Step Connection Handler Value}
  {result : TeapResult} {tlvs : List TeapTlv} {random : Block 32} {packet : EapTlsPacket}

abbrev Obeys (engine : TlsEngine Connection) (hmacs : Hmacs) (inner : InnerMethodHandler Handler)
    (method : Step Connection Handler Value)
    (post : Except EapError Value → List TeapEvent → EapTeapServer Connection Handler → Prop)
    (journal : List TeapEvent) (server : EapTeapServer Connection Handler) : Prop :=
  Follows (Conversation.Move hmacs inner engine.Encrypts) observe method post journal server

/-- A move of the conversation that notes allowed events only. -/
structure Reaction (hmacs : Hmacs) (inner : InnerMethodHandler Handler) (reliable : Prop) (allowed : TeapEvent → Prop)
    (before after : Conversation Handler × Nat × Nat × TlsFragmentAssembler) : Prop where
  move : Conversation.Move hmacs inner reliable before.1 after.1
  reckoned : after.2 = before.2
  noted : ∃ events, after.1.journal = before.1.journal ++ events ∧ ∀ event ∈ events, allowed event

abbrev Reacts (engine : TlsEngine Connection) (hmacs : Hmacs) (inner : InnerMethodHandler Handler)
    (allowed : TeapEvent → Prop) (method : Step Connection Handler Value)
    (post : Except EapError Value → List TeapEvent → EapTeapServer Connection Handler → Prop)
    (journal : List TeapEvent) (server : EapTeapServer Connection Handler) : Prop :=
  Follows (Reaction hmacs inner engine.Encrypts allowed) sight method post journal server

theorem reactions_kept {before after : Conversation Handler × Nat × Nat × TlsFragmentAssembler}
    (moves : Relation.ReflTransGen (Reaction hmacs inner reliable allowed) before after) :
    Relation.ReflTransGen (Conversation.Move hmacs inner reliable) before.1 after.1 ∧ after.2 = before.2 ∧
      ∃ events, after.1.journal = before.1.journal ++ events ∧ ∀ event ∈ events, allowed event := by
  induction moves with
  | refl => exact ⟨.refl, rfl, [], (List.append_nil _).symm, List.forall_mem_nil _⟩
  | tail _ step ih =>
    obtain ⟨moves, reckoned, events, noted, fine⟩ := ih
    obtain ⟨more, further, fitting⟩ := step.noted
    refine ⟨moves.tail step.move, step.reckoned.trans reckoned, events ++ more, ?_,
      List.forall_mem_append.mpr ⟨fine, fitting⟩⟩
    rw [further, noted, List.append_assoc]

theorem reacts_kept (reacts : Reacts engine hmacs inner allowed method post journal server) :
    method.wp (fun result after final => reckoning final = reckoning server ∧
      (∃ events, after = journal ++ events ∧ ∀ event ∈ events, allowed event) ∧ post result after final)
      journal server :=
  ⟨(reactions_kept reacts.1).2.1, (reactions_kept reacts.1).2.2, reacts.2⟩

theorem reacts_obeys (reacts : Reacts engine hmacs inner allowed method post journal server) :
    Obeys engine hmacs inner method post journal server :=
  ⟨(reactions_kept reacts.1).1, reacts.2⟩

theorem reacts_mono {more : TeapEvent → Prop} (implies : ∀ event, allowed event → more event)
    (reacts : Reacts engine hmacs inner allowed method post journal server) :
    Reacts engine hmacs inner more method post journal server := by
  refine ⟨Relation.ReflTransGen.mono ?_ _ _ reacts.1, reacts.2⟩
  intro before after reaction
  obtain ⟨events, noted, fine⟩ := reaction.noted
  exact ⟨reaction.move, reaction.reckoned, events, noted, fun event listed => implies event (fine event listed)⟩

/-! ## The server moves through the conversation -/

def Retunnelled (Holds : TlsFragmentAssembler → Prop) (server after : EapTeapServer Connection Handler) : Prop :=
  ∃ tlsServer, after = { server with tlsServer } ∧
    tlsServer.connection.isSome = server.tlsServer.connection.isSome ∧ Holds tlsServer.context.assembler

theorem observe_retunnelled (journal : List TeapEvent) (same : Retunnelled Holds server after) :
    observe journal after = observe journal server := by
  obtain ⟨tlsServer, rfl, connected, _⟩ := same
  simp [observe, connected]

theorem sight_retunnelled (journal : List TeapEvent)
    (same : Retunnelled (server.tlsServer.context.assembler = ·) server after) :
    sight journal after = sight journal server := by
  rw [sight, observe_retunnelled journal same]
  obtain ⟨tlsServer, rfl, _, assembler⟩ := same
  simp [sight, reckoning, ← assembler]

theorem onTls_wp {method : Method (EapTlsServer Connection) Empty EapError Value}
    (keeps : EapTlsServer.Keeps Holds method) (holds : Holds server.tlsServer.context.assembler) :
    (onTls method : Step Connection Handler Value).wp
      (fun _ after final => after = journal ∧ Retunnelled Holds server final) journal server := by
  rw [onTls, wp_within]
  exact ⟨rfl, _, rfl, keeps server.tlsServer holds⟩

theorem onConnection_wp {missing : EapError} {wrap : String → EapError}
    {operation : Connection → Except String Value × Connection} :
    (onTls (EapTlsServer.onConnection missing wrap operation) : Step Connection Handler Value).wp
      (fun result after final => after = journal ∧
        Retunnelled (server.tlsServer.context.assembler = ·) server final ∧
        ∀ reason, result = .error reason → server.tlsServer.connection.isSome = true →
          ∃ connection refusal, (operation connection).1 = .error refusal) journal server := by
  have kept : (onTls (EapTlsServer.onConnection missing wrap operation) : Step Connection Handler Value).wp _
      journal server := onTls_wp (EapTlsServer.keeps_onConnection missing wrap operation) rfl
  refine ⟨kept.1, kept.2, ?_⟩
  intro reason failed connected
  obtain ⟨connection, found⟩ := Option.isSome_iff_exists.mp connected
  refine ⟨connection, ?_⟩
  simp only [onTls, within, EapTlsServer.onConnection, call, found] at failed
  cases refused : (operation connection).1 with
  | ok value => simp [refused, Except.mapError] at failed
  | error refusal => exact ⟨refusal, rfl⟩

theorem Retunnelled.trans {middle : EapTeapServer Connection Handler}
    (first : Retunnelled (server.tlsServer.context.assembler = ·) server middle)
    (second : Retunnelled (middle.tlsServer.context.assembler = ·) middle after) :
    Retunnelled (server.tlsServer.context.assembler = ·) server after := by
  obtain ⟨_, rfl, connected, assembler⟩ := first
  obtain ⟨tlsServer, rfl, still, same⟩ := second
  exact ⟨tlsServer, rfl, still.trans connected, assembler.trans same⟩

theorem sendTlvs_wp (tlvs : List TeapTlv) :
    (sendTlvs engine tlvs).wp (fun result after final =>
      Retunnelled (server.tlsServer.context.assembler = ·) { server with phase2Started := true } final ∧
      ((∃ encrypted, result = .ok (some encrypted)) ∧ after = journal ++ [.sent tlvs] ∨
        (∃ reason, result = .error reason) ∧ after = journal ∧
          ¬ (engine.Encrypts ∧ server.tlsServer.connection.isSome = true))) journal server := by
  rw [sendTlvs, wp_update_bind]
  apply wp_bind_of onConnection_wp
  · intro _ _ written ⟨same, tunnelled, _⟩
    subst same
    apply wp_bind_of onConnection_wp
    · intro encrypted _ sent ⟨same, again, _⟩
      subst same
      rw [wp_note_bind, wp_pure]
      exact ⟨tunnelled.trans again, .inl ⟨⟨encrypted, rfl⟩, rfl⟩⟩
    · intro reason _ sent ⟨same, again, refused⟩
      subst same
      refine ⟨tunnelled.trans again, .inr ⟨⟨reason, rfl⟩, rfl, ?_⟩⟩
      intro ⟨encrypts, connected⟩
      obtain ⟨tlsServer, rfl, still, _⟩ := tunnelled
      obtain ⟨connection, refusal, failed⟩ := refused reason rfl (still.trans connected)
      obtain ⟨records, produced⟩ := encrypts.writeTls connection
      rw [produced] at failed
      cases failed
  · intro reason _ written ⟨same, tunnelled, refused⟩
    subst same
    refine ⟨tunnelled, .inr ⟨⟨reason, rfl⟩, rfl, ?_⟩⟩
    intro ⟨encrypts, connected⟩
    obtain ⟨connection, refusal, failed⟩ := refused reason rfl connected
    rw [encrypts.writeAll] at failed
    cases failed

theorem wp_consult_bind :
    (consult inner handler tlv >>= next).wp post journal server ↔
      (next (inner.processInnerRequest handler tlv).1).wp post
        (journal ++ [.consulted tlv (inner.processInnerRequest handler tlv).1])
        { server with innerMethod := some (inner.processInnerRequest handler tlv).2 } := by
  rw [wp_bind, consult, wp_update_bind, wp_note_bind, wp_pure]

theorem consult_reacts (running : server.innerMethod = some handler) (asked : tlv = IdentityType.user.toTlv ∨
      server.phase = .phase2InnerAuth ∧ ∃ tlvs, .received tlvs ∈ journal ∧ tlv ∈ tlvs)
    (fine : allowed (.consulted tlv (inner.processInnerRequest handler tlv).1))
    (continues : Reacts engine hmacs inner allowed (next (inner.processInnerRequest handler tlv).1) post
      (journal ++ [.consulted tlv (inner.processInnerRequest handler tlv).1])
      { server with innerMethod := some (inner.processInnerRequest handler tlv).2 }) :
    Reacts engine hmacs inner allowed (consult inner handler tlv >>= next) post journal server :=
  wp_consult_bind.mpr (continues.after_move
    ⟨.consulted running asked, rfl, _, rfl, List.forall_mem_singleton.mpr fine⟩)

theorem isComparison_consulted (other : tlv.getType ≠ some .basicPasswordAuthResp) (answer : Except EapError TeapTlv) :
    isComparison (.consulted tlv answer) = false := by
  cases answer with
  | error reason => rfl
  | ok response => simpa [isComparison] using other

theorem firstRequest_reacts :
    Reacts engine hmacs inner IsQuiet (firstRequest inner) (fun result _ final =>
      (∃ request, result = .ok request) ∧ ∃ innerMethod, final = { server with innerMethod }) journal server := by
  apply follows_self_bind.mpr
  cases running : server.innerMethod with
  | none => exact follows_pure.mpr ⟨⟨_, rfl⟩, none, by rw [← running]⟩
  | some handler =>
    apply consult_reacts running (.inl rfl) ⟨trivial, isComparison_consulted (by decide) _⟩
    cases (inner.processInnerRequest handler IdentityType.user.toTlv).1 with
    | ok request | error reason => exact follows_pure.mpr ⟨⟨_, rfl⟩, _, rfl⟩

theorem sendTlvs_reacts (tlvs : List TeapTlv) :
    Reacts engine hmacs inner IsQuiet (sendTlvs engine tlvs)
      (fun _ _ final => final.phase = server.phase) journal server := by
  apply wp_mono (sendTlvs_wp tlvs)
  intro result after final ⟨tunnelled, outcome⟩
  have seen : sight after final = sight after server := (sight_retunnelled after tunnelled).trans rfl
  refine ⟨?_, congrArg (·.1.phase) seen⟩
  rw [seen]
  rcases outcome with ⟨_, rfl⟩ | ⟨_, rfl, _⟩
  · exact .single ⟨.sent tlvs, rfl, _, rfl, List.forall_mem_singleton.mpr ⟨trivial, rfl⟩⟩
  · exact .refl

theorem openPhase2_reacts :
    Reacts engine hmacs inner IsQuiet (openPhase2 engine inner)
      (fun _ _ final => final.phase = server.phase) journal server := by
  apply Follows.bind firstRequest_reacts
  · intro request middle between ⟨_, _, changed⟩
    subst changed
    exact sendTlvs_reacts _
  · intro reason middle between ⟨⟨_, impossible⟩, _⟩
    cases impossible

theorem buildCryptoBindingRequestTlv_wp (random : Block 32) :
    (buildCryptoBindingRequestTlv engine hmacs inner random).wp (fun result after final => after = journal ∧
      ((∃ reason, result = .error reason) ∧ final = server ∨
        ∃ binding, result = .ok (bindingRequest hmacs (server.peerVersion.getD teapVersion)
            server.serverOuterTlvs server.peerOuterTlvs binding).toTlv ∧
          final = { server with cryptoBinding := some binding })) journal server := by
  rw [buildCryptoBindingRequestTlv, wp_self_bind, wp_check_bind]
  refine ⟨?_, fun reason _ => ⟨rfl, .inl ⟨⟨reason, rfl⟩, rfl⟩⟩⟩
  intro hash _
  rw [wp_check_bind]
  refine ⟨?_, fun reason _ => ⟨rfl, .inl ⟨⟨reason, rfl⟩, rfl⟩⟩⟩
  intro seed _
  rw [wp_update_bind, wp_pure]
  exact ⟨rfl, .inr ⟨_, rfl, rfl⟩⟩

theorem conclude_reacts (inTurn : server.phase = .phase2InnerAuth) (verdict : .reported result ∈ journal)
    (announces : (observe journal server).Announces hmacs tlvs result) :
    Reacts engine hmacs inner IsQuiet
      (do
        update fun server => { server with sentResult := some result, phase := .phase2ResultSent }
        sendTlvs engine tlvs)
      (fun result _ final => result.isOk = true → final.phase = .phase2ResultSent) journal server := by
  rw [Reacts, Follows, wp_update_bind]
  apply wp_mono (sendTlvs_wp tlvs)
  intro _ after final sent
  obtain ⟨tunnelled, outcome⟩ := sent
  have seen := sight_retunnelled after tunnelled
  refine ⟨?_, fun _ => congrArg (·.1.phase) seen⟩
  rw [seen]
  rcases outcome with ⟨_, rfl⟩ | ⟨_, rfl, lost⟩
  · exact .single ⟨.concluded inTurn verdict announces, rfl, _, rfl, List.forall_mem_singleton.mpr ⟨trivial, rfl⟩⟩
  · exact .single ⟨.unsent inTurn verdict lost, rfl, [], (List.append_nil _).symm, List.forall_mem_nil _⟩

theorem finishInnerMethod_reacts (inTurn : server.phase = .phase2InnerAuth) (verdict : .reported result ∈ journal) :
    Reacts engine hmacs inner IsQuiet (finishInnerMethod engine hmacs inner random result)
      (fun result _ final => result.isOk = true → final.phase = .phase2ResultSent) journal server := by
  cases result with
  | failure => exact conclude_reacts inTurn verdict rfl
  | success =>
    apply wp_bind_of (buildCryptoBindingRequestTlv_wp random)
    · intro tlv middle between ⟨same, outcome⟩
      subst same
      rcases outcome with ⟨⟨_, impossible⟩, _⟩ | ⟨binding, built, changed⟩
      · cases impossible
      · cases built
        subst changed
        apply Follows.after_move ⟨.prepared binding inTurn, rfl, [], (List.append_nil _).symm, List.forall_mem_nil _⟩
        exact conclude_reacts inTurn verdict ⟨binding, rfl, rfl⟩
    · intro reason middle between ⟨same, outcome⟩
      subst same
      rcases outcome with ⟨_, rfl⟩ | ⟨_, impossible, _⟩
      · exact ⟨.refl, fun impossible => by cases impossible⟩
      · cases impossible

theorem precheckTlv_wp (tlv : TeapTlv) :
    (precheckTlv tlv : Step Connection Handler Unit).wp (fun _ after final => after = journal ∧
      ∃ identityTypeReceived, final = { server with identityTypeReceived }) journal server := by
  have checked (result : Except EapError Unit) : (check result : Step Connection Handler Unit).wp (fun _ after final =>
      after = journal ∧ ∃ identityTypeReceived, final = { server with identityTypeReceived }) journal server :=
    wp_check.mpr ⟨rfl, _, rfl⟩
  unfold precheckTlv
  split
  case h_5 =>
    rw [wp_check_bind]
    refine ⟨?_, fun reason _ => ⟨rfl, _, rfl⟩⟩
    intro identityType _
    split
    · exact checked _
    · rw [noteIdentityTypeReceived, wp_self_bind]
      split
      · exact checked _
      · exact wp_update.mpr ⟨rfl, true, rfl⟩
  case h_6 =>
    split
    · exact checked _
    · exact checked (.ok ())
  case h_7 => exact checked (.ok ())
  all_goals exact checked _

theorem precheck_wp (tlvs : List TeapTlv) :
    (precheck tlvs : Step Connection Handler Unit).wp (fun _ after final => after = journal ∧
      ∃ identityTypeReceived, final = { server with identityTypeReceived }) journal server := by
  induction tlvs generalizing server with
  | nil => exact wp_pure.mpr ⟨rfl, _, rfl⟩
  | cons tlv rest ih =>
    apply wp_bind_of (precheckTlv_wp tlv)
    · grind
    · intro _ after final unchanged
      exact unchanged

theorem report_reacts (inTurn : server.phase = .phase2InnerAuth)
    (verdict : (observe journal server).Verdict inner result) :
    Reacts engine hmacs inner IsQuiet
      (do
        note (.reported result)
        finishInnerMethod engine hmacs inner random result)
      (fun result _ final => result.isOk = true → final.phase = .phase2ResultSent) journal server := by
  apply wp_note_bind.mpr
  apply Follows.after_move ⟨.reported inTurn verdict, rfl, _, rfl, List.forall_mem_singleton.mpr ⟨trivial, rfl⟩⟩
  exact finishInnerMethod_reacts inTurn (by simp)

theorem quiet_reacts (reacts : Reacts engine hmacs inner IsQuiet method post journal server) :
    Reacts engine hmacs inner IsReaction method (fun _ _ _ => True) journal server :=
  reacts_mono (fun _ => And.left) reacts.moves

theorem runInnerMethod_reacts (inTurn : server.phase = .phase2InnerAuth)
    (heard : ∃ message, .received message ∈ journal ∧ tlvs ⊆ message) :
    Reacts engine hmacs inner IsReaction (runInnerMethod engine hmacs inner random tlvs) (fun _ _ _ => True)
      journal server := by
  induction tlvs generalizing journal server with
  | nil => exact follows_pure.mpr trivial
  | cons tlv rest ih =>
    obtain ⟨message, member, within⟩ := heard
    have asked : server.phase = .phase2InnerAuth ∧ ∃ tlvs, .received tlvs ∈ journal ∧ tlv ∈ tlvs :=
      ⟨inTurn, message, member, within List.mem_cons_self⟩
    have later : rest ⊆ message := fun _ listed => within (List.mem_cons_of_mem _ listed)
    apply follows_self_bind.mpr
    split
    · exact follows_check.mpr trivial
    · rename_i handler _ running
      apply consult_reacts running (.inr asked) trivial
      cases (inner.processInnerRequest handler tlv).1 with
      | error reason => exact follows_check.mpr trivial
      | ok response =>
        dsimp only
        split
        · rename_i complete
          exact quiet_reacts (report_reacts inTurn (.inl ⟨_, rfl, complete, rfl⟩))
        · exact ih inTurn ⟨message, List.mem_append_left _ member, later⟩
    · exact follows_check.mpr trivial
    · rename_i handler payload running
      apply consult_reacts running (.inr asked) trivial
      cases (inner.processInnerRequest handler tlv).1 with
      | error reason => exact follows_check.mpr trivial
      | ok response =>
        dsimp only
        split
        · rename_i finished
          apply follows_check_bind.mpr
          refine ⟨?_, fun _ _ => trivial⟩
          intro result parsed
          exact quiet_reacts (report_reacts inTurn (.inr ⟨tlv, response, payload, by simp [observe], finished, parsed⟩))
        · exact quiet_reacts (sendTlvs_reacts _)
    · exact ih inTurn ⟨message, member, later⟩

theorem processPhase2Tlvs_reacts (inTurn : server.phase = .phase2InnerAuth) (heard : .received tlvs ∈ journal) :
    Reacts engine hmacs inner IsReaction (processPhase2Tlvs engine hmacs inner random tlvs) (fun _ _ _ => True)
      journal server := by
  unfold processPhase2Tlvs
  split
  · apply follows_self_bind.mpr
    split
    · exact quiet_reacts openPhase2_reacts
    · exact follows_check.mpr trivial
  · apply wp_bind_of (precheck_wp tlvs)
    · intro _ middle between ⟨same, identityTypeReceived, changed⟩
      subst same changed
      have runs : Reacts engine hmacs inner IsReaction (runInnerMethod engine hmacs inner random tlvs) _ middle
          { server with identityTypeReceived } :=
        runInnerMethod_reacts inTurn ⟨tlvs, heard, List.Subset.refl _⟩
      exact runs
    · intro _ middle between ⟨same, _, changed⟩
      subst same changed
      exact ⟨.refl, trivial⟩

def Rebound (server after : EapTeapServer Connection Handler) : Prop :=
  after = server ∨ ∃ binding nonce, server.sentResult = some .success ∧ server.cryptoBinding = some binding ∧
    after = { server with
      cryptoBinding := some { binding with clientNonce := some nonce }, cryptoBindingVerified := true }

theorem verifyCryptoBindingResponseTlv_wp (success : server.sentResult = some .success)
    (found : TeapTlv.find tlvs .cryptoBinding = some tlv) :
    (verifyCryptoBindingResponseTlv hmacs tlv).wp (fun result after final => after = journal ∧
      Rebound server final ∧ (result = .ok () ↔ (observe journal server).Binds hmacs tlvs)) journal server := by
  rw [verifyCryptoBindingResponseTlv, wp_check_bind]
  refine ⟨?_, fun reason refused => ⟨rfl, .inl rfl, by simp [Conversation.Binds, found, refused]⟩⟩
  intro response parsed
  rw [wp_self_bind]
  cases current : server.cryptoBinding with
  | none => exact wp_fail.mpr ⟨rfl, .inl rfl, by simp [Conversation.Binds, observe, current]⟩
  | some binding =>
    have binds : (observe journal server).Binds hmacs tlvs ↔ checkCryptoBindingResponse hmacs binding
        server.serverOuterTlvs server.peerOuterTlvs response = .ok () := by
      simp [Conversation.Binds, observe, found, parsed, current, checkCryptoBindingResponse_eq_ok]
    dsimp only
    rw [wp_check_bind]
    refine ⟨?_, fun reason failed => ⟨rfl, .inl rfl, by simp [binds, failed]⟩⟩
    intro _ passed
    rw [wp_update]
    exact ⟨rfl, .inr ⟨binding, response.nonce, success, current, rfl⟩, iff_of_true rfl (binds.mpr passed)⟩

theorem checkBinding_wp (tlvs : List TeapTlv) :
    (processResultAck.checkBinding hmacs tlvs).wp (fun result after final => after = journal ∧
      Rebound server final ∧ (result = .ok () ↔ (server.sentResult = some .success →
        (observe journal server).Binds hmacs tlvs ∧ Conversation.Gives tlvs .intermediateResult .success)))
      journal server := by
  rw [processResultAck.checkBinding, wp_self_bind]
  split
  · rename_i success
    cases found : TeapTlv.find tlvs .cryptoBinding with
    | none => exact wp_fail.mpr ⟨rfl, .inl rfl, by simp [success, Conversation.Binds, found]⟩
    | some tlv =>
      dsimp only
      apply wp_bind_of (verifyCryptoBindingResponseTlv_wp success found)
      · intro _ middle between checked
        obtain ⟨rfl, rebound, verified⟩ := checked
        have binds := verified.mp rfl
        cases named : TeapTlv.find tlvs .intermediateResult with
        | none => exact wp_fail.mpr ⟨rfl, rebound, by simp [success, Conversation.Gives, named]⟩
        | some intermediate =>
          dsimp only
          rw [show TeapResult.fromIntermediateResultTlv intermediate = TeapResult.fromResultTlv intermediate from rfl,
            wp_check_bind]
          refine ⟨?_, fun reason refused => ⟨rfl, rebound, by simp [success, Conversation.Gives, named, refused]⟩⟩
          intro result parsed
          cases result with
          | success =>
            rw [if_neg (by simp), wp_pure]
            exact ⟨rfl, rebound, iff_of_true rfl fun _ => ⟨binds, intermediate, named, parsed⟩⟩
          | failure =>
            rw [if_pos (by simp), wp_fail]
            exact ⟨rfl, rebound, by simp [success, Conversation.Gives, named, parsed]⟩
      · grind
  · rename_i other
    exact wp_pure.mpr ⟨rfl, .inl rfl, iff_of_true rfl fun success => absurd success other⟩

/-- The acknowledgement is taken exactly when it is acceptable, and only then
is the conversation complete. -/
theorem processResultAck_wp (tlvs : List TeapTlv) :
    (processResultAck hmacs tlvs).wp (fun result after final => after = journal ∧
      ((∃ given bound, result = .ok none ∧ (observe journal server).Acknowledges hmacs tlvs given ∧
          Rebound server bound ∧ final = { bound with peerResult := some given, phase := .complete }) ∨
        (∃ reason, result = .error reason) ∧ Rebound server final ∧
          ∀ given, ¬ (observe journal server).Acknowledges hmacs tlvs given)) journal server := by
  unfold processResultAck
  split
  · rename_i nak
    refine wp_fail.mpr ⟨rfl, .inr ⟨⟨_, rfl⟩, .inl rfl, ?_⟩⟩
    intro given acknowledges
    rw [acknowledges.noNak] at nak
    cases nak
  · rename_i noNak
    cases found : TeapTlv.find tlvs .result with
    | none =>
      refine wp_fail.mpr ⟨rfl, .inr ⟨⟨_, rfl⟩, .inl rfl, ?_⟩⟩
      intro given acknowledges
      simpa [Conversation.Gives, found] using acknowledges.peerResult
    | some tlv =>
      dsimp only
      rw [wp_check_bind]
      refine ⟨?_, fun reason refused => ⟨rfl, .inr ⟨⟨_, rfl⟩, .inl rfl, fun given acknowledges => ?_⟩⟩⟩
      · intro given parsed
        apply wp_bind_of (checkBinding_wp tlvs)
        · intro _ middle bound ⟨same, rebound, checked⟩
          subst same
          rw [wp_update_bind, wp_pure]
          have holds := checked.mp rfl
          refine ⟨rfl, .inl ⟨given, bound, rfl, ⟨?_, ⟨tlv, found, parsed⟩, ?_, ?_⟩, rebound, rfl⟩⟩
          · simpa using noNak
          · exact fun success => (holds success).1
          · exact fun success => (holds success).2
        · intro reason middle bound ⟨same, rebound, checked⟩
          refine ⟨same, .inr ⟨⟨_, rfl⟩, rebound, ?_⟩⟩
          intro other acknowledges
          cases checked.mpr fun success => ⟨acknowledges.binds success, acknowledges.intermediate success⟩
      · simpa [Conversation.Gives, found, refused] using acknowledges.peerResult

theorem processResultAck_obeys (awaited : server.phase = .phase2ResultSent) (heard : .received tlvs ∈ journal) :
    Obeys engine hmacs inner (processResultAck hmacs tlvs) (fun _ after final =>
      after = journal ∧ reckoning final = reckoning server) journal server := by
  apply wp_mono (processResultAck_wp tlvs)
  intro result after final ⟨same, outcome⟩
  subst same
  have reboundMoves {bound : EapTeapServer Connection Handler} (rebound : Rebound server bound) :
      Relation.ReflTransGen (Conversation.Move hmacs inner engine.Encrypts) (observe after server)
        (observe after bound) ∧ reckoning bound = reckoning server := by
    rcases rebound with rfl | ⟨binding, nonce, success, current, rfl⟩
    · exact ⟨.refl, rfl⟩
    · exact ⟨.single (.bound nonce awaited success current), rfl⟩
  rcases outcome with ⟨given, bound, _, acknowledges, rebound, rfl⟩ | ⟨_, rebound, _⟩
  · refine ⟨(reboundMoves rebound).1.tail ?_, rfl, (reboundMoves rebound).2⟩
    rcases rebound with rfl | ⟨binding, nonce, _, current, rfl⟩
    · exact .acknowledged awaited heard acknowledges
    · exact .acknowledged awaited heard (acknowledges.rebind current nonce)
  · exact ⟨(reboundMoves rebound).1, rfl, (reboundMoves rebound).2⟩

theorem negotiate_obeys (packet : TeapPacket) :
    Obeys engine hmacs inner (negotiate packet) (fun result after final => after = journal ∧
      final.phase = server.phase ∧ reckoning final = reckoning server ∧
      final.tlsServer = server.tlsServer ∧ ∀ value, result = .ok value → final.peerVersion.isSome) journal server := by
  apply follows_self_bind.mpr
  cases known : server.peerVersion with
  | none =>
    dsimp only
    split
    · exact follows_check.mpr ⟨rfl, rfl, rfl, rfl, fun _ impossible => by cases impossible⟩
    · rename_i version
      rw [ne_eq, not_not] at version
      rw [Follows, wp_update, version]
      exact ⟨.single (.negotiated packet.outerTlvs known), rfl, rfl, rfl, rfl, fun _ _ => rfl⟩
  | some version =>
    dsimp only
    split
    · exact follows_check.mpr ⟨rfl, rfl, rfl, rfl, fun _ impossible => by cases impossible⟩
    · exact follows_pure.mpr ⟨rfl, rfl, rfl, rfl, fun _ _ => by rw [known]; rfl⟩

theorem onTls_obeys {method : Method (EapTlsServer Connection) Empty EapError Value}
    (keeps : EapTlsServer.Keeps Holds method) (holds : Holds server.tlsServer.context.assembler) :
    Obeys engine hmacs inner (onTls method) (fun _ after final => after = journal ∧ Retunnelled Holds server final)
      journal server := by
  apply Follows.quiet
  apply wp_mono (onTls_wp keeps holds)
  intro _ after final ⟨same, tunnelled⟩
  rw [same]
  exact ⟨observe_retunnelled journal tunnelled, rfl, tunnelled⟩

/-- What the handshake leaves of the counting. -/
structure Uncounted (journal : List TeapEvent) (server : EapTeapServer Connection Handler) (after : List TeapEvent)
    (final : EapTeapServer Connection Handler) : Prop where
  quiet : ∃ events, after = journal ++ events ∧ ∀ event ∈ events, IsQuiet event
  rounds : final.phase2Rounds = server.phase2Rounds
  limit : final.maxPhase2Rounds = server.maxPhase2Rounds
  fed : server.tlsServer.context.assembler.Fed → final.tlsServer.context.assembler.Fed

theorem processPhase1_obeys (handshake : server.phase = .phase1TlsHandshake) (known : server.peerVersion.isSome) :
    Obeys engine hmacs inner (processPhase1 engine inner packet) (fun _ => Uncounted journal server)
      journal server := by
  have silent {tlsServer : EapTlsServer Connection}
      (fed : server.tlsServer.context.assembler.Fed → tlsServer.context.assembler.Fed) :
      Uncounted journal server journal { server with tlsServer } :=
    ⟨⟨[], (List.append_nil _).symm, List.forall_mem_nil _⟩, rfl, rfl, fed⟩
  have assembles : EapTlsServer.Keeps (fun assembler => server.tlsServer.context.assembler.Fed → assembler.Fed)
      (EapTlsServer.processClientMessage engine packet) :=
    EapTlsServer.keeps_processClientMessage fun _ fed earlier => (fed earlier).addFragment packet
  apply Follows.bind (onTls_obeys assembles id)
  · intro response middle between ⟨same, tlsServer, changed, _, fed⟩
    subst same changed
    apply follows_self_bind.mpr
    split
    · rename_i finished
      have extracts : EapTlsServer.Keeps (fun assembler => server.tlsServer.context.assembler.Fed → assembler.Fed)
        (EapTlsServer.extractKeys engine) := EapTlsServer.keeps_extractKeys
      apply Follows.bind (onTls_obeys extracts fed)
      · intro _ middle between ⟨same, keyed, changed, still, fed⟩
        subst same changed
        have connected : keyed.connection.isSome = true := by
          rw [still]
          cases found : tlsServer.connection with
          | none => simp [EapTlsServer.isHandshakeComplete, found] at finished
          | some connection => rfl
        apply wp_update_bind.mpr
        apply Follows.after_move (.tunnelled handshake known connected)
        have opened : Reacts engine hmacs inner IsQuiet (openPhase2 engine inner) _ middle
          { server with tlsServer := keyed, phase := .phase2InnerAuth } := openPhase2_reacts
        obtain ⟨same, quiet, _⟩ := reacts_kept opened
        simp only [reckoning, Prod.mk.injEq] at same
        have uncounted : Obeys engine hmacs inner (openPhase2 engine inner) (fun _ => Uncounted middle server) middle
            { server with tlsServer := keyed, phase := .phase2InnerAuth } :=
          ⟨(reacts_obeys opened).1, quiet, same.1, same.2.1, fun earlier => same.2.2 ▸ fed earlier⟩
        apply Follows.bind uncounted
        · intro opening _ _ counted
          cases opening with
          | some opening | none => exact follows_pure.mpr counted
        · intro _ _ _ counted
          exact counted
      · intro _ middle between ⟨same, keyed, changed, _, fed⟩
        subst same changed
        exact silent fed
    · exact follows_pure.mpr (silent fed)
  · intro _ middle between ⟨same, tlsServer, changed, _, fed⟩
    subst same changed
    exact silent fed

/-- What is left of Phase 2's counting and buffering is not part of the
conversation. -/
def Carried (server after : EapTeapServer Connection Handler) : Prop :=
  ∃ tlsServer phase2Rounds, after = { server with tlsServer, phase2Rounds } ∧
    tlsServer.connection.isSome = server.tlsServer.connection.isSome

theorem observe_carried (journal : List TeapEvent) (same : Carried server after) :
    observe journal after = observe journal server := by
  obtain ⟨tlsServer, _, rfl, connected⟩ := same
  simp [observe, connected]

def Longer (server after : EapTeapServer Connection Handler) : Prop :=
  after.phase2Rounds = server.phase2Rounds ∧
    server.tlsServer.context.assembler.fragments.length < after.tlsServer.context.assembler.fragments.length ∧
    (server.tlsServer.context.assembler.Fed → after.tlsServer.context.assembler.Fed)

def Counted (server after : EapTeapServer Connection Handler) : Prop :=
  after.phase2Rounds = min (server.phase2Rounds + 1) 0xffffffff ∧ after.phase2Rounds ≤ server.maxPhase2Rounds ∧
    after.tlsServer.context.assembler = .new

def assemble (packet : EapTlsPacket) (server : EapTeapServer Connection Handler) :
    Outcome TlsFragmentAssembler Empty EapError (Option Octets) :=
  TlsFragmentAssembler.Reassembly.fed ⟨server.tlsServer.context.assembler, []⟩ packet

def reassembled (packet : EapTlsPacket) (server : EapTeapServer Connection Handler) :
    EapTeapServer Connection Handler :=
  { server with tlsServer := { server.tlsServer with
      context := { server.tlsServer.context with assembler := (server.assemble packet).state } } }

theorem assemble_wp (unstarted : ¬ packet.flags.start = true) :
    (onTls (EapTlsServer.onContext (EapTlsContext.processIncoming packet)) : Step Connection Handler _).wp
      (fun result after final => after = journal ∧ result = (server.assemble packet).result ∧
        final = server.reassembled packet) journal server := by
  simp only [wp, onTls, EapTlsServer.onContext, within, EapTlsContext.processIncoming, unstarted]
  exact ⟨List.append_nil _, rfl, rfl⟩

theorem decryptTlsData_wp (encrypted : Octets) :
    (decryptTlsData engine encrypted : Step Connection Handler Octets).wp (fun _ after final => after = journal ∧
      Retunnelled (server.tlsServer.context.assembler = ·) server final) journal server := by
  rw [decryptTlsData, onTls, wp_within, wp_call]
  cases found : server.tlsServer.connection with
  | none => exact ⟨rfl, _, rfl, rfl, rfl⟩
  | some connection => exact ⟨rfl, _, rfl, by rw [found]; rfl, rfl⟩

/-- A call in Phase 2 fails before any TLV is read, buffers a fragment, opens
Phase 2, or goes on with the TLVs of a message. -/
theorem processPhase2_rule
    {post : Except EapError (Option Octets) → List TeapEvent → EapTeapServer Connection Handler → Prop}
    (failed : ∀ reason final, Carried server final → post (.error reason) journal final)
    (buffered : ∀ final, Carried server final → Longer server final → post (.ok none) journal final)
    (opening : ∀ between, Carried server between → Counted server between →
      (openPhase2 engine inner).wp post journal between)
    (message : ∀ tlvs between, Carried server between → Counted server between →
      (if between.phase = .phase2ResultSent then processResultAck hmacs tlvs
        else processPhase2Tlvs engine hmacs inner random tlvs).wp post (journal ++ [.received tlvs]) between) :
    (processPhase2 engine hmacs inner packet random).wp post journal server := by
  unfold processPhase2
  split
  · exact wp_fail.mpr (failed _ _ ⟨_, _, rfl, rfl⟩)
  next unstarted =>
    apply wp_bind_of (assemble_wp unstarted)
    · intro incoming _ assembled ⟨same, fed, changed⟩
      subst same changed
      cases incoming with
      | none =>
        exact wp_pure.mpr (buffered _ ⟨_, _, rfl, rfl⟩
          ⟨rfl, TlsFragmentAssembler.Reassembly.fed_grows fed.symm, fun earlier => earlier.addFragment packet⟩)
      | some encrypted =>
        rw [countPhase2Round, wp_bind, wp_update_bind, wp_self_bind]
        split
        · exact wp_fail.mpr (failed _ _ ⟨_, _, rfl, rfl⟩)
        next inLimit =>
          have counted : Counted server { server.reassembled packet with
              phase2Rounds := min (server.phase2Rounds + 1) 0xffffffff } :=
            ⟨rfl, Nat.not_lt.mp inLimit, TlsFragmentAssembler.Reassembly.fed_ends fed.symm⟩
          rw [wp_pure]
          dsimp only
          split
          · rw [wp_self_bind]
            split
            · exact opening _ ⟨_, _, rfl, rfl⟩ counted
            · exact wp_fail.mpr (failed _ _ ⟨_, _, rfl, rfl⟩)
          · apply wp_bind_of (decryptTlsData_wp encrypted)
            · intro plaintext _ _ ⟨same, tlsServer, changed, connected, assembler⟩
              subst same changed
              rw [wp_check_bind]
              refine ⟨?_, fun reason _ => failed _ _ ⟨_, _, rfl, connected⟩⟩
              intro tlvs _
              rw [wp_note_bind, wp_self_bind]
              exact message tlvs _ ⟨_, _, rfl, connected⟩ ⟨counted.1, counted.2.1, assembler.symm.trans counted.2.2⟩
            · intro reason _ _ ⟨same, tlsServer, changed, connected, _⟩
              subst same changed
              exact failed _ _ ⟨_, _, rfl, connected⟩
    · intro reason _ _ ⟨same, _, changed⟩
      subst same changed
      exact failed _ _ ⟨_, _, rfl, rfl⟩

theorem processPhase2_obeys (phase2 : server.phase = .phase2InnerAuth ∨ server.phase = .phase2ResultSent) :
    Obeys engine hmacs inner (processPhase2 engine hmacs inner packet random) (fun _ _ _ => True)
      journal server := by
  apply processPhase2_rule
  · intro reason final carried
    rw [observe_carried journal carried]
    exact ⟨.refl, trivial⟩
  · intro final carried _
    rw [observe_carried journal carried]
    exact ⟨.refl, trivial⟩
  · intro between carried _
    rw [← observe_carried journal carried]
    exact (reacts_obeys openPhase2_reacts).moves
  · intro tlvs between carried _
    have phase : between.phase = server.phase := congrArg Conversation.phase (observe_carried journal carried)
    rw [← observe_carried journal carried]
    apply Follows.after_move (.received tlvs)
    split
    · rename_i awaited
      exact (processResultAck_obeys awaited (by simp)).moves
    · rename_i running
      rcases phase2 with inTurn | awaited
      · exact reacts_obeys (processPhase2Tlvs_reacts (phase.trans inTurn) (by simp))
      · exact absurd (phase.trans awaited) running

theorem version_kept {before after : Conversation Handler} (known : before.version.isSome = true)
    (moves : Relation.ReflTransGen (Conversation.Move hmacs inner reliable) before after) :
    after.version.isSome = true := by
  induction moves with
  | refl => exact known
  | tail _ move ih =>
    cases move with
    | negotiated outerTlvs first => rfl
    | _ => exact ih

theorem processClientMessage_obeys (delivery : Delivery) :
    Obeys engine hmacs inner (processClientMessage engine hmacs inner delivery) (fun result _ final =>
      result.isOk = true → final.peerVersion.isSome = true) journal server := by
  apply Follows.bind (negotiate_obeys delivery.packet)
  · intro _ middle between ⟨same, _, _, _, known⟩
    subst same
    have versioned {method : Step Connection Handler (Option Octets)}
        {post : Except EapError (Option Octets) → List TeapEvent → EapTeapServer Connection Handler → Prop}
        (obeys : Obeys engine hmacs inner method post middle between) :
        Obeys engine hmacs inner method (fun result _ final => result.isOk = true → final.peerVersion.isSome = true)
          middle between :=
      ⟨obeys.1, fun _ => version_kept (known _ rfl) obeys.1⟩
    apply follows_self_bind.mpr
    cases phase : between.phase with
    | phase1TlsHandshake => exact versioned (processPhase1_obeys phase (known _ rfl))
    | phase2InnerAuth => exact versioned (processPhase2_obeys (.inl phase))
    | phase2ResultSent => exact versioned (processPhase2_obeys (.inr phase))
    | complete => exact follows_check.mpr fun impossible => by cases impossible
  · intro _ _ _ _ impossible
    cases impossible

/-- The states a server can be in after any packets, errors included, and what
went through the tunnel on the way. -/
abbrev Reaches (engine : TlsEngine Connection) (hmacs : Hmacs) (inner : InnerMethodHandler Handler)
    (start : EapTeapServer Connection Handler) :
    List TeapEvent → EapTeapServer Connection Handler → Prop :=
  Calls (processClientMessage engine hmacs inner) (fun _ => True) start

theorem Reaches.invariant {Holds : Conversation Handler → Prop} {start : EapTeapServer Connection Handler}
    (stable : ∀ before after, Conversation.Move hmacs inner engine.Encrypts before after → Holds before → Holds after)
    (initial : Holds (observe [] start)) (reached : Reaches engine hmacs inner start journal server) :
    Holds (observe journal server) := by
  have closed {before after : Conversation Handler} (holds : Holds before)
      (moves : Relation.ReflTransGen (Conversation.Move hmacs inner engine.Encrypts) before after) :
      Holds after := by
    induction moves with
    | refl => exact holds
    | tail _ step ih => exact stable _ _ step ih
  apply Calls.invariant (fun journal server => Holds (observe journal server)) initial _ reached
  intro delivery past between holds
  apply wp_mono (processClientMessage_obeys delivery)
  intro _ after final ⟨moves, _⟩ _
  exact closed holds moves

end Refinement

end EapTeapServer

end UsgRadius.Eap
