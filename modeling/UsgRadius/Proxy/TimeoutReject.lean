import UsgRadius.Eap.Packet
import UsgRadius.Proxy.Progress

namespace UsgRadius.Proxy

open Data Program Auth AttributeType Digests

/-! The Access-Reject that ends a request without an answer, as the NAS reads
it. -/

/-- A reply that a NAS may expect for its request: under its Identifier, signed
for it, with its own Proxy-States, and with an EAP-Failure where EAP was spoken. -/
structure ProperReject (digests : Digests) (request : Packet) (clientSecret : Octets) (reject : Packet) : Prop where
  identifier : reject.identifier = request.identifier
  authentic : verifyResponseAuthenticator digests reject request.authenticator clientSecret = .ok true
  proxyStates : reject.findAllAttributes proxyState.asU8 =
    request.findAllAttributes proxyState.asU8
  eap : request.findAttribute eapMessage.asU8 ≠ none →
    (∃ identifier, (reject.findAllAttributes eapMessage.asU8).flatMap Attribute.value =
      (Eap.EapPacket.failure identifier).toBytes) ∧
    checkMessageAuthenticator digests reject request.authenticator clientSecret = .ok .valid

section Rejecting

variable {digests : Digests} {request : Packet} {source : SocketAddr} {homeServer : HomeServer}
  {clientSecret : Octets} {counter : Nat} {entry : ProxyCacheEntry}

theorem rejectPacket_find (digests : Digests) (entry : ProxyCacheEntry) {attrType : UInt8}
    (other : attrType ≠ replyMessage.asU8) : (rejectPacket digests entry).findAllAttributes attrType = [] :=
  List.filter_eq_nil_iff.mpr (fun attr member => by
    obtain rfl := List.mem_singleton.mp member
    rw [decide_eq_true_eq]
    exact other.symm)

theorem rejectPacket_proper_iff (pending : Pending digests request source homeServer clientSecret counter entry) :
    ProperReject digests request clientSecret (rejectPacket digests entry) ↔
      request.findAllAttributes proxyState.asU8 = [] ∧
        request.findAttribute eapMessage.asU8 = none := by
  obtain ⟨_, identifier, authenticator⟩ := rewriteRequest_header pending.request
  refine ⟨fun proper => ?_, fun bare => ?_⟩
  · refine ⟨?_, ?_⟩
    · rw [← proper.proxyStates, rejectPacket_find digests entry (by decide)]
    · by_contra present
      obtain ⟨⟨eapId, failure⟩, _⟩ := proper.eap present
      rw [rejectPacket_find digests entry (by decide)] at failure
      cases failure
  · refine ⟨identifier, ?_, ?_, fun present => absurd bare.2 present⟩
    · rw [← authenticator, ← pending.clientSecret]
      rw [verifyResponseAuthenticator_of_fits _ _ (rejectPacket_encodable digests entry).fits]
      simp [rejectPacket]
    · rw [bare.1, rejectPacket_find digests entry (by decide)]

end Rejecting

/-- A forwarded request whose retries are used up is answered with one
Access-Reject, which is proper exactly if the NAS sent neither Proxy-State nor
EAP-Message. -/
theorem timeoutReject_proper_iff {digests : Digests} {request : Packet} {source : SocketAddr} {homeServer : HomeServer}
    {clientSecret : Octets} {entry stored : ProxyCacheEntry} {config : RetryConfig} {count : Nat}
    {start forwarded before after : World} {key : Except Fault ProxyStateKey} {result : Except Fault Unit}
    (forwarding : Runs (Performs True) (forwardRequest digests request source homeServer clientSecret)
      start key forwarded) (found : forwarded.cache.lookup entry.proxyState = some entry)
    (new : start.cache.lookup entry.proxyState ≠ some entry) (retried : Retried entry count stored)
    (exhausted : config.maxRetries ≤ stored.retryCount)
    (run : Runs (Performs False) (handleTimeout digests config stored) before result after) :
    ∃ reject, after.replies = ⟨entry.proxyState, source, reject.bytes⟩ :: before.replies ∧
      Packet.decode reject.bytes = .ok reject ∧ reject.code = .accessReject ∧
      (ProperReject digests request clientSecret reject ↔
        request.findAllAttributes proxyState.asU8 = [] ∧
          request.findAttribute eapMessage.asU8 = none) := by
  have pending := forwarded_pending forwarding found new
  refine ⟨rejectPacket digests entry, ?_, ?_, rfl, rejectPacket_proper_iff pending⟩
  · have same := rejectReply_congr digests retried.request retried.source retried.proxyState retried.clientSecret
    rcases handleTimeout_exhausted_runs exhausted run with rfl | ⟨impossible, _⟩
    · have sent : rejectReply digests entry = ⟨entry.proxyState, source, (rejectPacket digests entry).bytes⟩ := by
        rw [← pending.source]
        rfl
      rw [← sent, ← same]
      rfl
    · cases impossible
  · exact Packet.decode_eq_ok.mpr ⟨rejectPacket_encodable digests entry, List.prefix_rfl⟩

/-- `plainEntry` with its retries used up. -/
def spentEntry : ProxyCacheEntry :=
  { plainEntry with retryCount := 3 }

/-- A request without attributes is rejected properly. -/
theorem plainEntry_properReject :
    ∃ result after, Runs (Performs False) (handleTimeout checksum sampleConfig spentEntry)
        (forwardedWorld sampleEntry.originalRequest) result after ∧
      ∃ reject, after.replies = [⟨plainEntry.proxyState, sampleEntry.originalSource, reject.bytes⟩] ∧
        ProperReject checksum sampleEntry.originalRequest [1, 2] reject := by
  obtain ⟨_, forwarding⟩ := forwardedWorld_runs True sampleEntry.originalRequest
  obtain ⟨result, after, run⟩ := exists_run False (handleTimeout checksum sampleConfig spentEntry)
    (forwardedWorld sampleEntry.originalRequest)
  have retried : Retried plainEntry 3 spentEntry := ⟨rfl, rfl, rfl, rfl, rfl⟩
  obtain ⟨reject, sent, _, _, proper⟩ := timeoutReject_proper_iff forwarding (by decide +kernel) (by decide +kernel)
    retried (by decide) run
  exact ⟨result, after, run, reject, sent, proper.mpr ⟨by decide, by decide⟩⟩

/-- `sampleRequest` carries a Proxy-State and an EAP-Message, which its
Access-Reject does not answer. -/
theorem sampleRequest_improperReject :
    ∃ entry result after reject, (forwardedWorld sampleRequest).cache.lookup (proxyStateKey 0 0) = some entry ∧
      Runs (Performs False) (handleTimeout checksum ⟨0, false⟩ entry) (forwardedWorld sampleRequest)
        result after ∧
      after.replies = [⟨entry.proxyState, sampleEntry.originalSource, reject.bytes⟩] ∧
      ¬ ProperReject checksum sampleRequest [1, 2] reject := by
  obtain ⟨_, forwarding⟩ := forwardedWorld_runs True sampleRequest
  obtain ⟨entry, found⟩ := Option.isSome_iff_exists.mp
    (show ((forwardedWorld sampleRequest).cache.lookup (proxyStateKey 0 0)).isSome = true by decide +kernel)
  have key : entry.proxyState = proxyStateKey 0 0 := by
    have stored : ((forwardedWorld sampleRequest).cache.lookup (proxyStateKey 0 0)).map ProxyCacheEntry.proxyState =
        some (proxyStateKey 0 0) := by decide +kernel
    rw [found] at stored
    exact Option.some.inj stored
  have pending := forwarded_pending forwarding (key ▸ found) (by simp [World.initial])
  obtain ⟨result, after, run⟩ := exists_run False (handleTimeout checksum ⟨0, false⟩ entry)
    (forwardedWorld sampleRequest)
  refine ⟨entry, result, after, rejectPacket checksum entry, found, run, ?_, ?_⟩
  · rcases handleTimeout_exhausted_runs (show (0 : UInt8) ≤ entry.retryCount from UInt8.zero_le) run with
      rfl | ⟨impossible, _⟩
    · rw [← pending.source]
      rfl
    · cases impossible
  · rw [rejectPacket_proper_iff pending]
    decide

end UsgRadius.Proxy
