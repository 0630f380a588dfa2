import UsgRadius.Proxy.Handler

namespace UsgRadius.Proxy

open Data Program Auth

variable (digests : Digests)

structure RetryConfig where
  maxRetries : UInt8
  failoverOnTimeout : Bool

/-- The Access-Reject for a request that got no answer, signed for the NAS. -/
def timeoutReject (entry : ProxyCacheEntry) : Except Fault Packet := do
  let reject := Packet.new .accessReject entry.originalRequest.identifier entry.originalRequest.authenticator
  let attr ← liftError
    (match Attribute.string AttributeType.replyMessage.asU8 "Request timed out after maximum retries" with
    | .ok attr => .ok attr
    | .error reason => .error (.configuration s!"Failed to create Reply-Message: {reason.message}"))
  let reject := reject.addAttribute attr
  let authenticator ← liftPanic (calculateResponseAuthenticator digests reject
    entry.originalRequest.authenticator entry.clientSecret)
  return { reject with authenticator }

def sendReject (entry : ProxyCacheEntry) : Program Effect Fault Unit := do
  let reject ← check (timeoutReject digests entry)
  let rejectData ← check (liftError (liftPacket reject.encode))
  let sent ← ask (.nasSend
    { proxyState := entry.proxyState, address := entry.originalSource, bytes := rejectData })
  if sent then return () else fail (.error .io)

def mayResend (homeServer : HomeServer) (sentOn : Option UInt64) : Program Effect Fault Bool :=
  match homeServer.transport with
  | .udp => return true
  | .radsec => do
    match ← ask (.link homeServer) with
    | none => return true
    | some link => return !link.connected || some link.connections ≠ sentOn

/-- The connection a retried request is recorded on: the present one if it is
written again, else the one it was written on. -/
def connectionOfRetry (homeServer : HomeServer) (resend : Bool) (sentOn : Option UInt64) :
    Program Effect Fault (Option UInt64) :=
  if resend then linkGeneration homeServer else return sentOn

/-- The retries of `handle_timeout` that are not used up: the entry goes back
into the cache before the request is sent again. -/
def retryRequest (config : RetryConfig) (entry : ProxyCacheEntry) : Program Effect Fault Unit := do
  let entry := { entry with retryCount := entry.retryCount + 1 }
  let homeServer := if config.failoverOnTimeout then entry.homeServer else entry.homeServer
  ask (.recordTimeout entry.homeServer)
  let resend ← mayResend homeServer entry.sentOnConnection
  let sentAt ← ask .now
  let sentOnConnection ← connectionOfRetry homeServer resend entry.sentOnConnection
  let requestData ← check (liftError (liftPacket entry.originalRequest.encode))
  let stored ← ask (.cacheInsert { entry with homeServer, sentAt, sentOnConnection })
  check (liftError stored)
  ask (.recordRequest homeServer)
  if !resend then
    return ()
  else do
    -- A failed resend is only logged: the request times out again.
    let _ ← attempt (sendToHomeServer requestData homeServer)
    return ()

def handleTimeout (config : RetryConfig) (entry : ProxyCacheEntry) : Program Effect Fault Unit :=
  if config.maxRetries ≤ entry.retryCount then do
    sendReject digests entry
    let _ ← ask (.cacheRemove entry.proxyState)
    ask (.recordTimeout entry.homeServer)
  else
    retryRequest config entry

/-- The loop over the timed-out entries: an error is logged and the next one
handled; a panic ends the task. -/
def handleTimeouts (config : RetryConfig) : List ProxyCacheEntry → Program Effect Fault Unit
  | [] => return ()
  | entry :: rest => do
    match ← attempt (handleTimeout digests config entry) with
    | .error (.panic panic) => fail (.panic panic)
    | _ => handleTimeouts config rest

def retryTick (config : RetryConfig) (timeout : Nat) : Program Effect Fault Unit := do
  let timedOut ← ask (.cacheTimedOut timeout)
  handleTimeouts digests config timedOut

def removeExpired : List ProxyStateKey → Program Effect Fault Unit
  | [] => return ()
  | key :: rest => do
    match ← ask (.cacheRemove key) with
    | none => removeExpired rest
    | some entry => do
      ask (.recordTimeout entry.homeServer)
      removeExpired rest

def cleanupTick (ttl : Nat) : Program Effect Fault Unit := do
  let expired ← ask (.cacheExpired ttl)
  removeExpired expired

section Runs

variable {digests} {nasFails : Prop} {before after : World} {homeServer : HomeServer} {config : RetryConfig}
  {entry : ProxyCacheEntry} {result : Except Fault Unit} {sentOn : Option UInt64}

private def timeoutMessage : Attribute :=
  ⟨AttributeType.replyMessage.asU8, utf8 "Request timed out after maximum retries"⟩

private theorem timeoutMessage_fits : timeoutMessage.Fits := by decide +kernel

private def unsignedReject (entry : ProxyCacheEntry) : Packet where
  code := .accessReject
  identifier := entry.originalRequest.identifier
  authenticator := entry.originalRequest.authenticator
  attributes := [timeoutMessage]

def rejectPacket (digests : Digests) (entry : ProxyCacheEntry) : Packet :=
  { unsignedReject entry with
    authenticator := responseDigest digests (unsignedReject entry) entry.originalRequest.authenticator
      entry.clientSecret }

def rejectReply (digests : Digests) (entry : ProxyCacheEntry) : Reply where
  proxyState := entry.proxyState
  address := entry.originalSource
  bytes := (rejectPacket digests entry).bytes

theorem rejectPacket_encodable (digests : Digests) (entry : ProxyCacheEntry) :
    (rejectPacket digests entry).Encodable := by
  refine ⟨?_, ?_⟩
  · intro attr member
    obtain rfl := List.mem_singleton.mp member
    exact timeoutMessage_fits
  · show 20 + ([timeoutMessage].map Attribute.encodedLength).sum ≤ Packet.maxPacketSize
    decide +kernel

theorem timeoutReject_eq (digests : Digests) (entry : ProxyCacheEntry) :
    timeoutReject digests entry = .ok (rejectPacket digests entry) := by
  have created : Attribute.string AttributeType.replyMessage.asU8 "Request timed out after maximum retries" =
      .ok timeoutMessage := Attribute.new_eq_ok.mpr ⟨timeoutMessage_fits, rfl⟩
  have signed := @calculateResponseAuthenticator_of_fits digests (unsignedReject entry)
    entry.originalRequest.authenticator entry.clientSecret (rejectPacket_encodable digests entry).fits
  have unsigned : (Packet.new .accessReject entry.originalRequest.identifier
      entry.originalRequest.authenticator).addAttribute timeoutMessage = unsignedReject entry := rfl
  simp only [timeoutReject, created, liftError_ok, Results.ok_bind, unsigned, signed, liftPanic_ok]
  rfl

theorem rejectReply_congr {stored : ProxyCacheEntry} (digests : Digests)
    (request : stored.originalRequest = entry.originalRequest) (source : stored.originalSource = entry.originalSource)
    (proxyState : stored.proxyState = entry.proxyState) (clientSecret : stored.clientSecret = entry.clientSecret) :
    rejectReply digests stored = rejectReply digests entry := by
  simp only [rejectReply, rejectPacket, unsignedReject, request, source, proxyState, clientSecret]

theorem sendReject_runs (run : Runs (Performs nasFails) (sendReject digests entry) before result after) :
    (result = .ok () ∧ after = { before with replies := rejectReply digests entry :: before.replies }) ∨
    (nasFails ∧ (∃ reason, result = .error reason) ∧ after = before) := by
  have encoded : (rejectPacket digests entry).encode = .ok (rejectPacket digests entry).bytes :=
    Packet.encode_eq_ok.mpr ⟨rejectPacket_encodable digests entry, rfl⟩
  simp only [sendReject, timeoutReject_eq, encoded, check, liftPacket, liftError_ok, Program.ok_bind, ask_bind,
    runs_perform, Performs] at run
  obtain ⟨sent, middle, performed, run⟩ := run
  cases sent with
  | true =>
    obtain ⟨rfl, rfl⟩ := runs_done.mp run
    exact .inl ⟨rfl, performed⟩
  | false =>
    obtain ⟨rfl, rfl⟩ := runs_done.mp run
    exact .inr ⟨performed.1, ⟨_, rfl⟩, performed.2⟩

theorem mayResend_runs {result : Except Fault Bool}
    (run : Runs (Performs nasFails) (mayResend homeServer sentOn) before result after) :
    after = before ∧ ∃ resend, result = .ok resend := by
  unfold mayResend at run
  split at run
  · obtain ⟨rfl, rfl⟩ := runs_done.mp run
    exact ⟨rfl, _, rfl⟩
  · simp only [ask_bind, runs_perform, Performs] at run
    obtain ⟨view, _, rfl, run⟩ := run
    split at run
    · obtain ⟨rfl, rfl⟩ := runs_done.mp run
      exact ⟨rfl, _, rfl⟩
    · obtain ⟨rfl, rfl⟩ := runs_done.mp run
      exact ⟨rfl, _, rfl⟩

theorem connectionOfRetry_runs {resend : Bool} {result : Except Fault (Option UInt64)}
    (run : Runs (Performs nasFails) (connectionOfRetry homeServer resend sentOn) before result after) :
    after = before ∧ ∃ generation, result = .ok generation := by
  cases resend with
  | true => exact linkGeneration_runs run
  | false =>
    obtain ⟨rfl, rfl⟩ := runs_done.mp run
    exact ⟨rfl, _, rfl⟩

structure Advanced (entry retried : ProxyCacheEntry) : Prop where
  request : retried.originalRequest = entry.originalRequest
  source : retried.originalSource = entry.originalSource
  homeServer : retried.homeServer = entry.homeServer
  proxyState : retried.proxyState = entry.proxyState
  clientSecret : retried.clientSecret = entry.clientSecret
  retryCount : retried.retryCount = entry.retryCount + 1

/-- A retry gives the entry back to the cache and keeps it counted; when the
stored request does not encode, or a full cache no longer holds the entry, only
the timeout is counted. -/
theorem retryRequest_runs (run : Runs (Performs nasFails) (retryRequest config entry) before result after) :
    (entry.originalRequest.Encodable ∧ ∃ retried, Advanced entry retried ∧
      (before.cache.entries.length < before.maxEntries.toNat ∨ entry.proxyState ∈ before.cache) ∧
      after = World.record { before.record entry.homeServer (·.recordTimeout) with
        cache := before.cache.insert entry.proxyState retried } entry.homeServer (·.recordRequest)) ∨
    ((¬ entry.originalRequest.Encodable ∨ entry.proxyState ∉ before.cache) ∧
      (∃ reason, result = .error reason) ∧ after = before.record entry.homeServer (·.recordTimeout)) := by
  simp only [retryRequest, ite_self, ask_bind, runs_perform, Performs] at run
  obtain ⟨⟨⟩, _, rfl, run⟩ := run
  rw [runs_bind] at run
  rcases run with ⟨_, _, run⟩ | ⟨resend, _, checked, run⟩
  · obtain ⟨_, _, impossible⟩ := mayResend_runs run
    cases impossible
  obtain ⟨rfl, _⟩ := mayResend_runs checked
  simp only [runs_perform, Performs] at run
  obtain ⟨time, _, rfl, run⟩ := run
  rw [runs_bind] at run
  rcases run with ⟨_, _, run⟩ | ⟨generation, _, read, run⟩
  · obtain ⟨_, _, impossible⟩ := connectionOfRetry_runs run
    cases impossible
  obtain ⟨rfl, _⟩ := connectionOfRetry_runs read
  simp only [runs_perform, runs_check_bind, Performs, liftError_eq_ok, liftError_eq_error, liftPacket_eq_ok,
    Packet.encode_eq_ok] at run
  rcases run with ⟨_, unencoded, rfl, rfl⟩ | ⟨requestData, ⟨encodable, _⟩, stored, middle, inserted, run⟩
  · refine .inr ⟨.inl ?_, ⟨_, rfl⟩, rfl⟩
    intro encodable
    obtain ⟨_, failed, _⟩ := unencoded
    rw [Packet.encode_eq_ok.mpr ⟨encodable, rfl⟩] at failed
    cases failed
  rcases run with ⟨_, ⟨reason, rfl, _⟩, rfl, rfl⟩ | ⟨⟨⟩, rfl, _, _, rfl, run⟩
  · obtain ⟨absent, rfl⟩ := World.insert_error inserted
    exact .inr ⟨.inr absent, ⟨_, rfl⟩, rfl⟩
  · obtain ⟨room, rfl⟩ := World.insert_ok inserted
    refine .inl ⟨encodable, { entry with
      retryCount := entry.retryCount + 1, sentAt := time, sentOnConnection := generation },
      ⟨rfl, rfl, rfl, rfl, rfl, rfl⟩, room, ?_⟩
    split at run
    · exact (runs_done.mp run).2
    · rw [runs_attempt_bind] at run
      obtain ⟨_, _, sent, finished⟩ := run
      obtain ⟨_, rfl⟩ := runs_done.mp finished
      exact sendToHomeServer_runs sent

theorem handleTimeout_exhausted_runs (exhausted : config.maxRetries ≤ entry.retryCount)
    (run : Runs (Performs nasFails) (handleTimeout digests config entry) before result after) :
    (after = World.record { before with
        cache := before.cache.erase entry.proxyState
        replies := rejectReply digests entry :: before.replies } entry.homeServer (·.recordTimeout)) ∨
    (nasFails ∧ after = before) := by
  rw [handleTimeout, if_pos exhausted, runs_bind] at run
  rcases run with ⟨_, _, run⟩ | ⟨_, _, run, rest⟩
  · rcases sendReject_runs run with ⟨impossible, _⟩ | ⟨fails, _, rfl⟩
    · cases impossible
    · exact .inr ⟨fails, rfl⟩
  · rcases sendReject_runs run with ⟨_, rfl⟩ | ⟨_, ⟨_, impossible⟩, _⟩
    · simp only [ask_bind, runs_perform, runs_ask, Performs] at rest
      obtain ⟨removed, _, taken, ⟨⟩, _, rfl⟩ := rest
      cases taken
      exact .inl rfl
    · cases impossible

theorem handleTimeout_other {key : ProxyStateKey} (other : key ≠ entry.proxyState)
    (run : Runs (Performs nasFails) (handleTimeout digests config entry) before result after) :
    after.cache.lookup key = before.cache.lookup key := by
  by_cases exhausted : config.maxRetries ≤ entry.retryCount
  · rcases handleTimeout_exhausted_runs exhausted run with rfl | ⟨_, rfl⟩
    · exact AList.lookup_erase_ne other
    · rfl
  · rw [handleTimeout, if_neg exhausted] at run
    rcases retryRequest_runs run with ⟨_, retried, _, _, rfl⟩ | ⟨_, _, rfl⟩
    · exact AList.lookup_insert_ne other
    · rfl

end Runs

end UsgRadius.Proxy
