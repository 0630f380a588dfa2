import UsgRadius.Proxy.Handler

namespace UsgRadius.Proxy

open Data Program Auth AttributeType

/-! Response handling checks the Response Authenticator of what it relays, but
not its Message-Authenticator. -/

/-- The packet carries exactly one Message-Authenticator, and it is the HMAC of
the packet under the secret and the Request Authenticator. -/
def ProperlySigned (digests : Digests) (packet : Packet) (requestAuthenticator : Block 16) (secret : Octets) :
    Prop :=
  ∃ before value after,
    packet.attributes = before ++ ⟨messageAuthenticator.asU8, value⟩ :: after ∧
    Unsigned before ∧ Unsigned after ∧
    value = (digests.hmacMd5 secret (macInput packet requestAuthenticator before after).bytes).octets

/-- A response whose Message-Authenticator is right when there is one, and that
has one when it carries EAP-Message. -/
structure Intact (digests : Digests) (entry : ProxyCacheEntry) (response : Packet) : Prop where
  signature : hasAttribute messageAuthenticator.asU8 response.attributes = true →
    ProperlySigned digests response entry.originalRequest.authenticator entry.homeServer.secret
  eapMessage : hasAttribute eapMessage.asU8 response.attributes = true →
    ProperlySigned digests response entry.originalRequest.authenticator entry.homeServer.secret

/-- Handling the response relays it only if it is intact for the request it
answers, and otherwise leaves the cache as it was. -/
def IntegrityKept (digests : Digests) (world : World) (response : Packet) (origin : ResponseOrigin) : Prop :=
  ∀ result after, Runs (Performs True) (handleResponseFrom digests response origin) world result after →
    (∃ proxyState entry, lastProxyState response = some proxyState ∧
      world.cache.lookup proxyState = some entry ∧ Intact digests entry response) ∨
    (after.replies = world.replies ∧ after.cache = world.cache)

section Relaying

variable {digests : Digests} {before after : World} {response : Packet} {origin : ResponseOrigin}
  {proxyState : ProxyStateKey} {entry : ProxyCacheEntry}

theorem Attributed.consumes (attributed : Attributed digests before.cache response origin proxyState entry) :
    ∃ result after, Runs (Performs True) (handleResponseFrom digests response origin) before result after ∧
      after.cache ≠ before.cache := by
  obtain ⟨result, after, run⟩ := exists_run True (relayResponse digests response proxyState entry)
    { before with cache := before.cache.erase proxyState }
  refine ⟨result, after, attributed.runs_iff.mpr run, ?_⟩
  obtain ⟨_, _, _, rfl⟩ := relayResponse_runs run
  intro same
  have found := attributed.stored
  rw [← show before.cache.erase proxyState = before.cache from same, AList.lookup_erase] at found
  cases found

theorem laundered (attributed : Attributed digests before.cache response origin proxyState entry)
    (bad : ¬ Intact digests entry response) : ¬ IntegrityKept digests before response origin := by
  intro kept
  obtain ⟨result, after, run, changed⟩ := attributed.consumes
  rcases kept result after run with ⟨key, stored, correlated, found, intact⟩ | ⟨_, unchanged⟩
  · obtain rfl : proxyState = key := Option.some.inj (attributed.correlated.symm.trans correlated)
    obtain rfl : entry = stored := Option.some.inj (attributed.stored.symm.trans found)
    exact bad intact
  · exact changed unchanged

end Relaying

/-- Response handling keeps integrity exactly when every response that is
attributed to a stored request is already intact: it makes no check of its own. -/
theorem integrityKept_iff (digests : Digests) (world : World) (response : Packet) (origin : ResponseOrigin) :
    IntegrityKept digests world response origin ↔
      ∀ proxyState entry, Attributed digests world.cache response origin proxyState entry →
        Intact digests entry response := by
  refine ⟨?_, ?_⟩
  · intro kept proxyState entry attributed
    by_contra bad
    exact laundered attributed bad kept
  · intro intact result after run
    rcases handleResponseFrom_runs run with rfl | ⟨proxyState, entry, attributed, _⟩
    · exact .inr ⟨rfl, rfl⟩
    · exact .inl ⟨proxyState, entry, attributed.correlated, attributed.stored, intact _ _ attributed⟩

theorem ProperlySigned.valid {digests : Digests} {packet : Packet} {requestAuthenticator : Block 16} {secret : Octets}
    (signed : ProperlySigned digests packet requestAuthenticator secret) (encodable : packet.Encodable) :
    checkMessageAuthenticator digests packet requestAuthenticator secret = .ok .valid := by
  obtain ⟨before, value, after, split, unsignedBefore, unsignedAfter, rfl⟩ := signed
  rw [check_signed requestAuthenticator secret encodable (Block.size _) unsignedBefore unsignedAfter split,
    if_pos rfl]

/-- An Access-Accept with EAP-Message and a Message-Authenticator of zeros. -/
def forgedAccept : Packet :=
  let unsigned : Packet :=
    { code := .accessAccept, identifier := 7, authenticator := Block.zero 16
      attributes := [⟨eapMessage.asU8, [3, 1, 0, 4]⟩,
        ⟨messageAuthenticator.asU8, List.replicate 16 0⟩,
        ⟨proxyState.asU8, (proxyStateKey 0 0).octets⟩] }
  { unsigned with authenticator := responseDigest .checksum unsigned (Block.fill 16 9) [4, 5] }

theorem forgedAccept_laundered :
    ¬ IntegrityKept .checksum (forwardedWorld sampleRequest) forgedAccept (.udp sampleEntry.homeServer.address) ∧
    ((handleResponseFrom .checksum forgedAccept (.udp sampleEntry.homeServer.address)).eval
      (perform calm) (forwardedWorld sampleRequest)).2.replies.length = 1 := by
  have pending : ((forwardedWorld sampleRequest).cache.lookup (proxyStateKey 0 0)).any (fun entry =>
      ResponseOrigin.expected (.udp sampleEntry.homeServer.address) entry.homeServer &&
      decide (verifyResponseAuthenticator .checksum forgedAccept entry.originalRequest.authenticator
        entry.homeServer.secret = .ok true) &&
      decide (checkMessageAuthenticator .checksum forgedAccept entry.originalRequest.authenticator
        entry.homeServer.secret ≠ .ok .valid)) = true := by decide +kernel
  obtain ⟨entry, stored, facts⟩ := (Option.any_eq_true _ _).mp pending
  simp only [Bool.and_eq_true, decide_eq_true_eq] at facts
  obtain ⟨⟨expected, verified⟩, unsigned⟩ := facts
  have encodable : forgedAccept.Encodable := ⟨by decide +kernel, by decide +kernel⟩
  refine ⟨laundered ⟨by decide +kernel, stored, expected, verified⟩ ?_, by decide +kernel⟩
  intro intact
  exact unsigned ((intact.signature (by decide +kernel)).valid encodable)

end UsgRadius.Proxy
