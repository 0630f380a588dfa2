import UsgRadius.Server.Process

namespace UsgRadius.Server

open Data Program Policy

/-! How the reply to an Access-Request comes about, whatever the handlers, the
router and the policy answer. -/

section Answers

variable {World : Type} {step : Program.Semantics Effect World} {server : ServerConfig} {request reply : Packet}
  {username : String} {secret : Octets} {before after : World} {attributes : List Attribute}

theorem answerAccept_runs {msk : Option Octets} :
    Runs step (answerAccept server request username secret attributes msk) before (.ok reply) after ↔
      ∃ acceptAttributes asked keys keyed policy,
        step _ (.getAcceptAttributes username) before acceptAttributes asked ∧
        Runs step (keyAttributes server request secret msk) asked (.ok keys) keyed ∧
        step _ .readPolicy keyed policy after ∧
        finishAccess server.digests request (enforce (decide? server policy request username) request
          { code := .accessAccept, identifier := request.identifier, authenticator := .zero 16
            attributes := acceptAttributes ++ attributes ++ keys }) secret = .ok reply := by
  simp only [answerAccept, ask_bind, runs_perform, runs_bind_ok, runs_check, addAttributes_eq, Packet.new,
    List.nil_append]
  refine ⟨?_, ?_⟩
  · rintro ⟨acceptAttributes, asked, answered, keys, keyed, sealing, policy, _, read, finished, same⟩
    exact ⟨acceptAttributes, asked, keys, keyed, policy, answered, sealing, same ▸ read, finished⟩
  · rintro ⟨acceptAttributes, asked, keys, keyed, policy, answered, sealing, read, finished⟩
    exact ⟨acceptAttributes, asked, answered, keys, keyed, sealing, policy, after, read, finished, rfl⟩

theorem answerReject_runs :
    Runs step (answerReject server request username secret) before (.ok reply) after ↔
      ∃ rejectAttributes, step _ (.getRejectAttributes username) before rejectAttributes after ∧
        finishAccess server.digests request
          { code := .accessReject, identifier := request.identifier, authenticator := .zero 16
            attributes := rejectEapMessage request ++ rejectAttributes } secret = .ok reply := by
  simp only [answerReject, ask_bind, runs_perform, runs_check, addAttributes_eq, Packet.new, List.nil_append]
  refine ⟨?_, ?_⟩
  · grind
  · grind

theorem answerChallenge_runs {message : Option String} {state : Octets} :
    Runs step (answerChallenge server request username secret message state attributes) before (.ok reply) after ↔
      ∃ stateAttr messageAttrs challengeAttributes,
        Attribute.new AttributeType.state.asU8 state = .ok stateAttr ∧ challengeMessage message = .ok messageAttrs ∧
        step _ (.getChallengeAttributes username) before challengeAttributes after ∧
        finishAccess server.digests request
          { code := .accessChallenge, identifier := request.identifier, authenticator := .zero 16
            attributes := stateAttr :: messageAttrs ++ attributes ++ challengeAttributes } secret = .ok reply := by
  simp only [answerChallenge, runs_bind_ok, runs_check, ask_bind, runs_perform, addAttributes_eq, Packet.new,
    List.nil_append, liftError_eq_ok, orAuthFailed_eq_ok]
  refine ⟨?_, ?_⟩
  · grind
  · grind

end Answers

/-! ## What the policy makes of an Access-Accept -/

section Enforced

variable {request response : Packet}

theorem foldl_addPolicyReplyAttribute_header (attributes : List Attribute) (response : Packet) :
    (attributes.foldl addPolicyReplyAttribute response).code = response.code ∧
      (attributes.foldl addPolicyReplyAttribute response).identifier = response.identifier := by
  induction attributes generalizing response with
  | nil => exact ⟨rfl, rfl⟩
  | cons attr rest ih =>
    rw [List.foldl_cons, (ih _).1, (ih _).2]
    unfold addPolicyReplyAttribute
    split <;> exact ⟨rfl, rfl⟩

theorem policyAccept_header (decision : Decision) (response : Packet) :
    (policyAccept decision response).code = response.code ∧
      (policyAccept decision response).identifier = response.identifier := by
  rw [policyAccept, addAttributes_eq]
  exact foldl_addPolicyReplyAttribute_header _ _

theorem policyReject_attributes (request : Packet) (decision : Decision) :
    (policyReject request decision).attributes = policyEapFailure request ++ replyMessage decision.replyMessage := by
  simp [policyReject, Packet.new]

theorem enforce_cases (decision : Option Decision) (request response : Packet) :
    enforce decision request response = response ∨
    (∃ rejected, decision = some rejected ∧ rejected.effect = .reject ∧
      enforce decision request response = policyReject request rejected) ∨
    ∃ accepted, enforce decision request response = policyAccept accepted response := by
  cases decision with
  | none => exact .inl rfl
  | some decision =>
    cases effect : decision.effect with
    | accept => exact .inr (.inr ⟨decision, by simp only [enforce, effect]⟩)
    | reject => exact .inr (.inl ⟨decision, rfl, effect, by simp only [enforce, effect]⟩)

theorem enforce_rejects {decision : Option Decision} (accepts : response.code = .accessAccept)
    (rejected : (enforce decision request response).code = .accessReject) :
    ∃ decided, decision = some decided ∧ decided.effect = .reject ∧
      enforce decision request response = policyReject request decided := by
  rcases enforce_cases decision request response with same | rejects | ⟨accepted, same⟩
  · rw [same, accepts] at rejected
    cases rejected
  · exact rejects
  · rw [same, (policyAccept_header _ _).1, accepts] at rejected
    cases rejected

end Enforced

end UsgRadius.Server
