import UsgRadius.Proxy.RequestForwarding
import UsgRadius.Proxy.ResponseRelaying
import UsgRadius.Proxy.World

namespace UsgRadius.Proxy

open Data Program Auth

variable (digests : Digests)

def maxProxyStateAttributes : Nat := 5

def linkGeneration (homeServer : HomeServer) : Program Effect Fault (Option UInt64) := do
  let link ← ask (.link homeServer)
  return link.map (·.connections)

def sendToHomeServer (bytes : Octets) (homeServer : HomeServer) : Program Effect Fault Unit :=
  match homeServer.transport with
  | .udp => do
    let sent ← ask (.udpSend homeServer.address bytes)
    if sent then return () else fail (.error .io)
  | .radsec => do
    match ← ask (.link homeServer) with
    | none => fail (.error (.linkDown homeServer.name))
    | some _ =>
      if !(← ask (.linkConnected homeServer)) then fail (.error (.linkDown homeServer.name))
      else
        match ← ask (.linkSend homeServer bytes) with
        | none => return ()
        | some .down => fail (.error (.linkDown homeServer.name))
        | some .busy => fail (.error (.linkBusy homeServer.name))

def forwardRequest (request : Packet) (source : SocketAddr) (homeServer : HomeServer) (clientSecret : Octets) :
    Program Effect Fault ProxyStateKey :=
  let proxyStateCount := (request.attributes.filter (·.attrType = AttributeType.proxyState.asU8)).length
  if proxyStateCount ≥ maxProxyStateAttributes then
    fail (.error (.proxyLoop proxyStateCount maxProxyStateAttributes))
  else do
    let proxyState ← ask .nextProxyState
    let request ← check (liftError
      (rewriteRequestForHomeServer digests request proxyState clientSecret homeServer.secret))
    let sentAt ← ask .now
    let sentOnConnection ← linkGeneration homeServer
    -- The entry is stored before the send, so that the response finds it.
    let stored ← ask (.cacheInsert {
      originalRequest := request
      originalSource := source
      homeServer
      sentAt
      retryCount := 0
      proxyState
      clientSecret
      sentOnConnection })
    check (liftError stored)
    ask (.recordRequest homeServer)
    let requestData ← check (liftError (liftPacket request.encode))
    sendToHomeServer requestData homeServer
    return proxyState

inductive ResponseOrigin where
  | udp (address : SocketAddr)
  | link (homeServer : HomeServer) (generation : UInt64)
deriving DecidableEq

def lastProxyState (response : Packet) : Option ProxyStateKey := do
  let attr ← response.attributes.reverse.find? (·.attrType = AttributeType.proxyState.asU8)
  Block.ofOctets? 16 attr.value

/-- Whether a response from `origin` may answer a request sent to `homeServer`. -/
def ResponseOrigin.expected (origin : ResponseOrigin) (homeServer : HomeServer) : Bool :=
  match origin with
  | .udp address => homeServer.transport = .udp && address = homeServer.address
  | .link server _ => server.arc = homeServer.arc

def resetLink : ResponseOrigin → Program Effect Fault Unit
  | .udp _ => return ()
  | .link homeServer generation => do
    match ← ask (.link homeServer) with
    | none => return ()
    | some _ => ask (.linkReset homeServer generation)

/-- What is left of `handle_response_from` once the entry is taken out of the cache. -/
def relayResponse (response : Packet) (proxyState : ProxyStateKey) (entry : ProxyCacheEntry) :
    Program Effect Fault Unit := do
  ask (.recordResponse entry.homeServer)
  let draw ← ask .drawSalts
  let response ← check (rewriteResponseForNas digests response entry draw)
  let responseData ← check (liftError (liftPacket response.encode))
  let sent ← ask (.nasSend { proxyState, address := entry.originalSource, bytes := responseData })
  if sent then return () else fail (.error .io)

def handleResponseFrom (response : Packet) (origin : ResponseOrigin) : Program Effect Fault Unit :=
  match lastProxyState response with
  | none => fail (.error .correlationFailed)
  | some proxyState => do
    match ← ask (.cacheGet proxyState) with
    | none => fail (.error .correlationFailed)
    | some entry =>
      if !origin.expected entry.homeServer then
        fail (.error .correlationFailed)
      else do
        let verified ← check (liftPanic (verifyResponseAuthenticator digests response
          entry.originalRequest.authenticator entry.homeServer.secret))
        if !verified then do
          resetLink origin
          fail (.error .invalidResponseAuthenticator)
        else do
          match ← ask (.cacheRemove proxyState) with
          | none => fail (.error .correlationFailed)
          | some entry => relayResponse digests response proxyState entry

section Runs

variable {digests} {nasFails : Prop} {before after : World} {homeServer : HomeServer} {result : Except Fault Unit}
  {origin : ResponseOrigin} {response : Packet} {proxyState : ProxyStateKey} {entry : ProxyCacheEntry}

theorem linkGeneration_runs {result : Except Fault (Option UInt64)}
    (run : Runs (Performs nasFails) (linkGeneration homeServer) before result after) :
    after = before ∧ ∃ generation, result = .ok generation := by
  simp only [linkGeneration, ask_bind, pure_eq, runs_perform, runs_done, Performs] at run
  obtain ⟨view, _, rfl, rfl, rfl⟩ := run
  exact ⟨rfl, _, rfl⟩

theorem sendToHomeServer_runs {bytes : Octets}
    (run : Runs (Performs nasFails) (sendToHomeServer bytes homeServer) before result after) : after = before := by
  unfold sendToHomeServer at run
  split at run
  · simp only [ask_bind, runs_perform, Performs] at run
    obtain ⟨sent, _, rfl, run⟩ := run
    split at run
    · exact (runs_done.mp run).2
    · exact (runs_done.mp run).2
  · simp only [ask_bind, runs_perform, Performs] at run
    obtain ⟨view, _, rfl, run⟩ := run
    split at run
    · exact (runs_done.mp run).2
    · simp only [runs_perform, Performs] at run
      obtain ⟨connected, _, rfl, run⟩ := run
      split at run
      · exact (runs_done.mp run).2
      · simp only [runs_perform, Performs] at run
        obtain ⟨outcome, _, rfl, run⟩ := run
        split at run
        · exact (runs_done.mp run).2
        · exact (runs_done.mp run).2
        · exact (runs_done.mp run).2

theorem resetLink_runs (run : Runs (Performs nasFails) (resetLink origin) before result after) : after = before := by
  cases origin with
  | udp address => exact (runs_done.mp run).2
  | link homeServer generation =>
    simp only [resetLink, ask_bind, runs_perform, Performs] at run
    obtain ⟨view, _, rfl, run⟩ := run
    split at run
    · exact (runs_done.mp run).2
    · obtain ⟨_, _, performed⟩ := runs_ask.mp run
      exact performed

/-- The entry that `forward_request` builds. -/
structure Pending (digests : Digests) (request : Packet) (source : SocketAddr) (homeServer : HomeServer)
    (clientSecret : Octets) (counter : Nat) (entry : ProxyCacheEntry) : Prop where
  proxyState : ∃ nanos, entry.proxyState = proxyStateKey nanos counter
  request : rewriteRequestForHomeServer digests request entry.proxyState clientSecret homeServer.secret =
    .ok entry.originalRequest
  source : entry.originalSource = source
  homeServer : entry.homeServer = homeServer
  clientSecret : entry.clientSecret = clientSecret
  fresh : entry.retryCount = 0

/-- Forwarding stores one entry under a new key and counts it, or leaves the
cache and the statistics alone. -/
theorem forwardRequest_runs {request : Packet} {source : SocketAddr} {clientSecret : Octets}
    {result : Except Fault ProxyStateKey}
    (run : Runs (Performs nasFails) (forwardRequest digests request source homeServer clientSecret) before result after) :
    (∃ issued, issued ≤ 1 ∧ after = { before with counter := before.counter + issued }) ∨
    ∃ entry, Pending digests request source homeServer clientSecret before.counter entry ∧
      (before.cache.entries.length < before.maxEntries.toNat ∨ entry.proxyState ∈ before.cache) ∧
      after = World.record { before with
        counter := before.counter + 1
        cache := before.cache.insert entry.proxyState entry } homeServer (·.recordRequest) := by
  unfold forwardRequest at run
  dsimp only at run
  split at run
  · obtain ⟨_, rfl⟩ := runs_done.mp run
    exact .inl ⟨0, by omega, rfl⟩
  simp only [ask_bind, runs_perform, runs_check_bind, Performs, liftError_eq_ok] at run
  obtain ⟨proxyState, _, ⟨issued, rfl⟩, run⟩ := run
  have unstored : ∃ issued, issued ≤ 1 ∧ { before with counter := before.counter + 1 } =
      { before with counter := before.counter + issued } := ⟨1, by omega, rfl⟩
  rcases run with ⟨_, _, _, rfl⟩ | ⟨rewritten, rewrites, time, _, rfl, run⟩
  · exact .inl unstored
  rw [runs_bind] at run
  rcases run with ⟨_, _, run⟩ | ⟨generation, _, read, run⟩
  · obtain ⟨rfl, _⟩ := linkGeneration_runs run
    exact .inl unstored
  obtain ⟨rfl, _⟩ := linkGeneration_runs read
  simp only [runs_perform, runs_check_bind, Performs, liftError_eq_ok, liftError_eq_error] at run
  obtain ⟨stored, middle, inserted, run⟩ := run
  rcases run with ⟨_, ⟨reason, rfl, _⟩, _, rfl⟩ | ⟨⟨⟩, rfl, _, _, rfl, run⟩
  · obtain ⟨_, rfl⟩ := World.insert_error inserted
    exact .inl unstored
  · obtain ⟨room, rfl⟩ := World.insert_ok inserted
    refine .inr ⟨_, ⟨issued, rewrites, rfl, rfl, rfl, rfl⟩, room, ?_⟩
    rcases run with ⟨_, _, _, rfl⟩ | ⟨requestData, _, run⟩
    · rfl
    rw [runs_bind] at run
    rcases run with ⟨_, _, sent⟩ | ⟨_, _, sent, finished⟩
    · exact sendToHomeServer_runs sent
    · obtain ⟨_, rfl⟩ := runs_done.mp finished
      exact sendToHomeServer_runs sent

/-- What relaying a response under a key does: the response is counted, and at
most one packet goes to the NAS. -/
theorem relayResponse_runs
    (run : Runs (Performs nasFails) (relayResponse digests response proxyState entry) before result after) :
    ∃ now replies, (replies = [] ∨ ∃ bytes, replies = [⟨proxyState, entry.originalSource, bytes⟩]) ∧
      after = { before.record entry.homeServer (·.recordResponse now) with
        replies := replies ++ before.replies } := by
  simp only [relayResponse, ask_bind, runs_perform, runs_check_bind, Performs] at run
  obtain ⟨⟨⟩, _, ⟨now, rfl⟩, draw, _, rfl, run⟩ := run
  refine ⟨now, ?_⟩
  rcases run with ⟨_, _, _, rfl⟩ | ⟨relayed, rewrites, run⟩
  · exact ⟨[], .inl rfl, rfl⟩
  rcases run with ⟨_, _, _, rfl⟩ | ⟨bytes, encoded, sent, middle, performed, run⟩
  · exact ⟨[], .inl rfl, rfl⟩
  cases sent with
  | true =>
    obtain ⟨_, rfl⟩ := runs_done.mp run
    exact ⟨_, .inr ⟨bytes, rfl⟩, performed⟩
  | false =>
    obtain ⟨_, rfl⟩ := runs_done.mp run
    exact ⟨[], .inl rfl, performed.2⟩

/-- A response for the stored entry of its Proxy-State, from the home server the
request went to and with a good Response Authenticator. -/
structure Attributed (digests : Digests) (cache : ProxyCache) (response : Packet) (origin : ResponseOrigin)
    (proxyState : ProxyStateKey) (entry : ProxyCacheEntry) : Prop where
  correlated : lastProxyState response = some proxyState
  stored : cache.lookup proxyState = some entry
  expected : origin.expected entry.homeServer = true
  verified : verifyResponseAuthenticator digests response entry.originalRequest.authenticator
    entry.homeServer.secret = .ok true

theorem Attributed.runs_iff (attributed : Attributed digests before.cache response origin proxyState entry) :
    Runs (Performs nasFails) (handleResponseFrom digests response origin) before result after ↔
      Runs (Performs nasFails) (relayResponse digests response proxyState entry)
        { before with cache := before.cache.erase proxyState } result after := by
  simp only [handleResponseFrom, attributed.correlated, ask_bind, runs_perform, Performs, and_assoc, exists_and_left,
    exists_eq_left, attributed.stored, attributed.expected, attributed.verified, liftPanic_ok, check, Program.ok_bind,
    Bool.not_true, Bool.false_eq_true, if_false, World.remove, Prod.mk.injEq]

/-- Response handling changes nothing, or consumes the entry of an attributed
response and relays it. -/
theorem handleResponseFrom_runs :
    Runs (Performs nasFails) (handleResponseFrom digests response origin) before result after →
    after = before ∨ ∃ proxyState entry, Attributed digests before.cache response origin proxyState entry ∧
      Runs (Performs nasFails) (relayResponse digests response proxyState entry)
        { before with cache := before.cache.erase proxyState } result after := by
  intro run
  unfold handleResponseFrom at run
  split at run
  · exact .inl (runs_done.mp run).2
  rename_i proxyState correlated
  simp only [ask_bind, runs_perform, Performs] at run
  obtain ⟨found, _, ⟨rfl, rfl⟩, run⟩ := run
  split at run
  · exact .inl (runs_done.mp run).2
  rename_i entry stored
  split at run
  · exact .inl (runs_done.mp run).2
  rename_i expected
  rw [runs_check_bind] at run
  rcases run with ⟨_, _, _, rfl⟩ | ⟨verified, verifies, run⟩
  · exact .inl rfl
  split at run
  · rw [runs_bind] at run
    rcases run with ⟨_, _, reset⟩ | ⟨_, _, reset, finished⟩
    · exact .inl (resetLink_runs reset)
    · obtain ⟨_, rfl⟩ := runs_done.mp finished
      exact .inl (resetLink_runs reset)
  rename_i passed
  simp only [runs_perform, Performs] at run
  obtain ⟨removed, middle, taken, run⟩ := run
  cases taken
  simp only [stored] at run
  refine .inr ⟨proxyState, entry, ⟨correlated, stored, by simpa using expected, ?_⟩, run⟩
  obtain rfl : verified = true := by simpa using passed
  exact liftPanic_eq_ok.mp verifies

end Runs

theorem rewriteRequest_lastProxyState {digests : Digests} {request forwarded : Packet} {proxyState : ProxyStateKey}
    {clientSecret homeSecret : Octets}
    (rewritten : rewriteRequestForHomeServer digests request proxyState clientSecret homeSecret = .ok forwarded) :
    lastProxyState forwarded = some proxyState := by
  have last : forwarded.attributes.reverse.find? (·.attrType = AttributeType.proxyState.asU8) =
      some ⟨AttributeType.proxyState.asU8, proxyState.octets⟩ := by
    rw [← List.head?_filter, List.filter_reverse, List.head?_reverse]
    have added := rewriteRequest_proxyStates rewritten
    rw [Packet.findAllAttributes] at added
    rw [added, List.getLast?_concat]
  have own : Block.ofOctets? 16 proxyState.octets = some proxyState := by
    simp [Block.ofOctets?]
  simp [lastProxyState, last, own]

/-- A proxy that has forwarded one request to the home server of `sampleEntry`. -/
def forwardedWorld (request : Packet) : World :=
  ((forwardRequest .checksum request sampleEntry.originalSource sampleEntry.homeServer [1, 2]).eval
    (perform calm) (World.initial 10)).2

theorem forwardedWorld_runs (nasFails : Prop) (request : Packet) :
    ∃ result, Runs (Performs nasFails) (forwardRequest .checksum request sampleEntry.originalSource
      sampleEntry.homeServer [1, 2]) (World.initial 10) result (forwardedWorld request) :=
  ⟨_, eval_runs (perform_performs calm (fun impossible => by cases impossible)) _ _⟩

end UsgRadius.Proxy
