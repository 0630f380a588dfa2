import UsgRadius.Proxy.Links
import UsgRadius.Proxy.Progress

namespace UsgRadius.Proxy

open Data Program

/-! Whether a timeout sends a request again over a RadSec link. What counts is the
connection that was recorded before the last attempt, not what came of it. -/

section Timeout

variable {before after : LinkedWorld} {link : LinkState} {entry : ProxyCacheEntry} {sentOn : Option UInt64}
  {homeServer : HomeServer}

theorem mayResend_connected {result : Except Fault Bool} (radsec : homeServer.transport = .radsec)
    (linked : before.links homeServer.arc = some link) (connected : link.stage = .serving)
    (run : Runs LinkPerforms (mayResend homeServer sentOn) before result after) :
    result = .ok (decide (some link.generation ≠ sentOn)) ∧ after = before := by
  simp only [mayResend, radsec, ask_bind, runs_perform, LinkPerforms, linked, Option.map_some, and_assoc,
    exists_and_left, exists_eq_left] at run
  obtain ⟨rfl, rfl⟩ := runs_done.mp run
  simp [LinkState.view, connected]

theorem connectionOfRetry_reads {resend : Bool} {result : Except Fault (Option UInt64)}
    (run : Runs LinkPerforms (connectionOfRetry homeServer resend sentOn) before result after) :
    (∃ generation, result = .ok generation) ∧ after = before := by
  cases resend with
  | true =>
    simp only [connectionOfRetry, if_true, linkGeneration, ask_bind, runs_perform, LinkPerforms] at run
    obtain ⟨view, _, ⟨_, rfl⟩, run⟩ := run
    obtain ⟨rfl, rfl⟩ := runs_done.mp run
    exact ⟨⟨_, rfl⟩, rfl⟩
  | false =>
    obtain ⟨rfl, rfl⟩ := runs_done.mp run
    exact ⟨⟨_, rfl⟩, rfl⟩

theorem sendToHomeServer_connected {bytes : Octets} {result : Except Fault Unit}
    (radsec : homeServer.transport = .radsec) (linked : before.links homeServer.arc = some link)
    (connected : link.stage = .serving) (room : link.queue.length < link.capacity)
    (run : Runs LinkPerforms (sendToHomeServer bytes homeServer) before result after) :
    after.links homeServer.arc = some { link with queue := link.queue ++ [bytes] } := by
  have queued : link.trySend bytes = (none, { link with queue := link.queue ++ [bytes] }) := by
    rw [LinkState.trySend, if_neg (by omega)]
  have shown : link.view.connected = true := decide_eq_true connected
  simp only [sendToHomeServer, radsec, ask_bind, runs_perform, LinkPerforms, linked, Option.map_some, Option.any_some,
    shown, Bool.not_true, Bool.false_eq_true, if_false, and_assoc, exists_and_left, exists_eq_left, queued] at run
  obtain ⟨_, rfl⟩ := runs_done.mp run
  simp [LinkedWorld.setLink]

theorem insert_stored {answer : Except ProxyError Unit} {retried : ProxyCacheEntry}
    (inserted : LinkPerforms _ (.cacheInsert retried) before answer after)
    (present : retried.proxyState ∈ before.base.cache) : answer = .ok () ∧ after.links = before.links := by
  have stored : before.base.insert retried =
      (.ok (), { before.base with cache := before.base.cache.insert retried.proxyState retried }) := by
    rw [World.insert, if_neg (by simp [present])]
  simp only [LinkPerforms, LinkedWorld.insert, stored] at inserted
  cases inserted
  exact ⟨rfl, rfl⟩

end Timeout

/-- A timeout that finds the link connected, with room in its queue, queues the
request exactly if the connection recorded for the last attempt is another one. -/
theorem timeout_queues_iff {digests : Digests} {config : RetryConfig} {entry : ProxyCacheEntry} {link : LinkState}
    {before after : LinkedWorld} {result : Except Fault Unit} (radsec : entry.homeServer.transport = .radsec)
    (left : ¬ config.maxRetries ≤ entry.retryCount) (stored : before.base.cache.lookup entry.proxyState = some entry)
    (encodable : entry.originalRequest.Encodable) (linked : before.links entry.homeServer.arc = some link)
    (connected : link.stage = .serving) (room : link.queue.length < link.capacity)
    (run : Runs LinkPerforms (handleTimeout digests config entry) before result after) :
    after.links entry.homeServer.arc = some { link with queue := link.queue ++ [entry.originalRequest.bytes] } ↔
      entry.sentOnConnection ≠ some link.generation := by
  have present : entry.proxyState ∈ before.base.cache := AList.lookup_isSome.mp (by rw [stored]; rfl)
  have encoded : entry.originalRequest.encode = .ok entry.originalRequest.bytes :=
    Packet.encode_eq_ok.mpr ⟨encodable, rfl⟩
  simp only [handleTimeout, if_neg left, retryRequest, ite_self, ask_bind, runs_perform] at run
  obtain ⟨⟨⟩, counted, recorded, run⟩ := run
  have same : counted.links = before.links ∧ counted.base.cache = before.base.cache := by
    obtain ⟨_, recorded, rfl⟩ := recorded
    cases recorded
    exact ⟨rfl, rfl⟩
  rw [← same.1] at linked
  rw [← same.2] at present
  rw [runs_bind] at run
  rcases run with ⟨_, _, run⟩ | ⟨resend, _, decided, run⟩
  · obtain ⟨impossible, _⟩ := mayResend_connected radsec linked connected run
    cases impossible
  obtain ⟨chosen, rfl⟩ := mayResend_connected radsec linked connected decided
  obtain rfl := Except.ok.inj chosen
  simp only [runs_perform] at run
  obtain ⟨time, timed, ⟨_, read, rfl⟩, run⟩ := run
  cases read
  rw [runs_bind] at run
  rcases run with ⟨_, _, failed⟩ | ⟨generation, _, read, run⟩
  · obtain ⟨⟨_, impossible⟩, _⟩ := connectionOfRetry_reads failed
    cases impossible
  obtain ⟨_, rfl⟩ := connectionOfRetry_reads read
  simp only [encoded, check, liftPacket, liftError_ok, Program.ok_bind, runs_perform] at run
  obtain ⟨answer, kept, inserted, run⟩ := run
  obtain ⟨rfl, links⟩ := insert_stored inserted present
  simp only [liftError_ok, Program.ok_bind, runs_perform] at run
  obtain ⟨⟨⟩, sent, ⟨_, _, rfl⟩, run⟩ := run
  by_cases recorded : entry.sentOnConnection = some link.generation
  · have unsent : (!decide (some link.generation ≠ entry.sentOnConnection)) = true := by simp [recorded]
    rw [if_pos unsent] at run
    obtain ⟨_, rfl⟩ := runs_done.mp run
    refine ⟨fun queued => ?_, fun other => absurd recorded other⟩
    have unchanged := (congrFun links entry.homeServer.arc).trans linked
    have longer := congrArg (fun found => found.map (·.queue.length)) (unchanged.symm.trans queued)
    simp at longer
  · have resent : ¬ (!decide (some link.generation ≠ entry.sentOnConnection)) = true := by
      simpa using fun same => recorded same.symm
    rw [if_neg resent, runs_attempt_bind] at run
    obtain ⟨_, _, sending, finished⟩ := run
    obtain ⟨_, rfl⟩ := runs_done.mp finished
    refine ⟨fun _ => recorded, fun _ => ?_⟩
    refine sendToHomeServer_connected radsec ?_ connected room sending
    exact (congrFun links _).trans linked

/-- A link that serves a connection and can queue one frame. -/
def servingLink (connections : Nat) (queue : List Octets) : LinkState :=
  { stage := .serving, connections, queue, capacity := 1, reset := none, written := [], resets := [] }

/-- A proxy that has just forwarded a request over a link with a full queue. -/
def busyForwarding : Except Fault ProxyStateKey × LinkedWorld :=
  (forwardRequest .checksum sampleEntry.originalRequest sampleEntry.originalSource radsecServer [1, 2]).eval
    (performLinked calm) { base := World.initial 10, links := fun _ => some (servingLink 1 [[0]])
                           latest := fun _ => none, timedOut := [] }

/-- The entry it stored. -/
def busyEntry : ProxyCacheEntry :=
  { plainEntry with homeServer := radsecServer, sentOnConnection := some 1 }

/-- The same proxy later, with a link of which nothing is queued. -/
def laterWorld (connections : Nat) : LinkedWorld :=
  { busyForwarding.2 with links := fun _ => some (servingLink connections []) }

/-- Once the link has reconnected, the timeout sends the request. -/
theorem reconnected_queues :
    ∃ result after, Runs LinkPerforms (handleTimeout .checksum sampleConfig busyEntry) (laterWorld 2)
        result after ∧
      after.links 0 = some (servingLink 2 [busyEntry.originalRequest.bytes]) := by
  have run := eval_runs (performLinked_performs calm) (handleTimeout .checksum sampleConfig busyEntry)
    (laterWorld 2)
  have stored : (laterWorld 2).base.cache.lookup busyEntry.proxyState = some busyEntry := by decide +kernel
  have encodable : busyEntry.originalRequest.Encodable := by decide +kernel
  have linked : (laterWorld 2).links busyEntry.homeServer.arc = some (servingLink 2 []) := rfl
  exact ⟨_, _, run,
    (timeout_queues_iff rfl (by decide) stored encodable linked rfl (by decide) run).mpr (by decide)⟩

/-- The request found the queue full and was not sent; on the same connection its
timeout does not send it either, though the queue is empty by then. -/
theorem busySend_notRepeated :
    busyForwarding.1 = .error (.error (.linkBusy "home")) ∧
    busyForwarding.2.base.cache.lookup busyEntry.proxyState = some busyEntry ∧
    ∃ result after, Runs LinkPerforms (handleTimeout .checksum sampleConfig busyEntry) (laterWorld 1)
        result after ∧
      after.links 0 = some (servingLink 1 []) := by
  have run := eval_runs (performLinked_performs calm) (handleTimeout .checksum sampleConfig busyEntry)
    (laterWorld 1)
  exact ⟨by decide +kernel, by decide +kernel, _, _, run, by decide +kernel⟩

end UsgRadius.Proxy
