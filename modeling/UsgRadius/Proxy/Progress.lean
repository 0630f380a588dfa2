import UsgRadius.Proxy.Gauge

namespace UsgRadius.Proxy

open Data Program

/-! What becomes of a request that is never answered: timeout after timeout its
entry advances, until the NAS is sent an Access-Reject. -/

def repliesTo (key : ProxyStateKey) (world : World) : List Reply :=
  world.replies.filter (·.proxyState = key)

/-- Whatever happened in between left the entry of a key and the answers to it
alone: no response arrived for it and the cleanup did not remove it. -/
structure Undisturbed (key : ProxyStateKey) (before after : World) : Prop where
  entry : after.cache.lookup key = before.cache.lookup key
  replies : repliesTo key after = repliesTo key before

/-- A number of timeout handlings of the entry under a key, each for the entry as
it is stored at the time, with sends to the NAS succeeding. -/
inductive TimedOut (digests : Digests) (config : RetryConfig) (key : ProxyStateKey) : Nat → World → World → Prop
  | waiting {before after : World} (undisturbed : Undisturbed key before after) :
      TimedOut digests config key 0 before after
  | handled {count : Nat} {before middle next after : World} {stored : ProxyCacheEntry} {result : Except Fault Unit}
      (earlier : TimedOut digests config key count before middle)
      (found : middle.cache.lookup key = some stored)
      (run : Runs (Performs False) (handleTimeout digests config stored) middle result next)
      (undisturbed : Undisturbed key next after) :
      TimedOut digests config key (count + 1) before after

/-- The NAS was sent the reject for an entry, and the entry is gone. -/
structure Rejected (digests : Digests) (entry : ProxyCacheEntry) (before after : World) : Prop where
  reply : repliesTo entry.proxyState after = rejectReply digests entry :: repliesTo entry.proxyState before
  gone : after.cache.lookup entry.proxyState = none

/-- Every timeout handling advances the retry count of the entry by one or
rejects it, and it is rejected by the one after `max_retries`. -/
structure EndsInReject (digests : Digests) (config : RetryConfig) (entry : ProxyCacheEntry) (world : World) : Prop where
  progress : ∀ count middle stored result after, TimedOut digests config entry.proxyState count world middle →
    middle.cache.lookup entry.proxyState = some stored →
    Runs (Performs False) (handleTimeout digests config stored) middle result after →
    (∃ next, after.cache.lookup entry.proxyState = some next ∧
      next.retryCount.toNat = stored.retryCount.toNat + 1) ∨ Rejected digests entry middle after
  pending : ∀ count middle, count ≤ config.maxRetries.toNat →
    TimedOut digests config entry.proxyState count world middle →
    ∃ stored, middle.cache.lookup entry.proxyState = some stored ∧ stored.retryCount.toNat = count
  rejected : ∀ after, TimedOut digests config entry.proxyState (config.maxRetries.toNat + 1) world after →
    Rejected digests entry world after

section Handling

variable {digests : Digests} {config : RetryConfig} {entry stored : ProxyCacheEntry} {before middle after : World}
  {result : Except Fault Unit}

/-- The same request, `count` retries later. -/
structure Retried (entry : ProxyCacheEntry) (count : Nat) (stored : ProxyCacheEntry) : Prop where
  request : stored.originalRequest = entry.originalRequest
  source : stored.originalSource = entry.originalSource
  proxyState : stored.proxyState = entry.proxyState
  clientSecret : stored.clientSecret = entry.clientSecret
  retryCount : stored.retryCount.toNat = count

theorem Undisturbed.rejected {world : World} (undisturbed : Undisturbed entry.proxyState before after)
    (rejected : Rejected digests entry world before) : Rejected digests entry world after where
  reply := undisturbed.replies.trans rejected.reply
  gone := undisturbed.entry.trans rejected.gone

theorem UInt8.succ_toNat {count limit : UInt8} (below : count.toNat < limit.toNat) :
    (count + 1).toNat = count.toNat + 1 := by
  have small := limit.toNat_lt
  rw [UInt8.toNat_add, UInt8.toNat_one]
  exact Nat.mod_eq_of_lt (by omega)

theorem Retried.retry {count : Nat} (retried : Retried entry count stored) (encodable : entry.originalRequest.Encodable)
    (left : count < config.maxRetries.toNat) (found : before.cache.lookup entry.proxyState = some stored)
    (run : Runs (Performs False) (handleTimeout digests config stored) before result after) :
    ∃ next, after.cache.lookup entry.proxyState = some next ∧ Retried entry (count + 1) next ∧
      repliesTo entry.proxyState after = repliesTo entry.proxyState before := by
  have below : stored.retryCount.toNat < config.maxRetries.toNat := by rw [retried.retryCount]; exact left
  have unused : ¬ config.maxRetries ≤ stored.retryCount := by
    rw [UInt8.le_iff_toNat_le]
    omega
  rw [handleTimeout, if_neg unused] at run
  rcases retryRequest_runs run with ⟨_, next, advanced, _, rfl⟩ | ⟨unstored, _, _⟩
  · refine ⟨next, ?_, ⟨?_, ?_, ?_, ?_, ?_⟩, rfl⟩
    · rw [← retried.proxyState]
      exact AList.lookup_insert _
    · exact advanced.request.trans retried.request
    · exact advanced.source.trans retried.source
    · exact advanced.proxyState.trans retried.proxyState
    · exact advanced.clientSecret.trans retried.clientSecret
    · rw [advanced.retryCount, UInt8.succ_toNat below, retried.retryCount]
  · rcases unstored with unencodable | absent
    · exact absurd (retried.request ▸ encodable) unencodable
    · rw [retried.proxyState] at absent
      exact absurd (AList.lookup_isSome.mp (by rw [found]; rfl)) absent

theorem Retried.reject {count : Nat} (retried : Retried entry count stored) (used : config.maxRetries.toNat ≤ count)
    (run : Runs (Performs False) (handleTimeout digests config stored) before result after) :
    Rejected digests entry before after := by
  have exhausted : config.maxRetries ≤ stored.retryCount := by
    rw [UInt8.le_iff_toNat_le, retried.retryCount]
    exact used
  have same := rejectReply_congr digests retried.request retried.source retried.proxyState retried.clientSecret
  rcases handleTimeout_exhausted_runs exhausted run with rfl | ⟨impossible, _⟩
  · rw [retried.proxyState, same]
    refine ⟨?_, AList.lookup_erase _ _⟩
    exact List.filter_cons_of_pos (by simp [rejectReply])
  · cases impossible

end Handling

section Counting

variable {digests : Digests} {config : RetryConfig} {entry : ProxyCacheEntry} {world after : World} {count : Nat}

theorem timedOut_stands (fresh : entry.retryCount = 0) (stored : world.cache.lookup entry.proxyState = some entry)
    (retriable : config.maxRetries = 0 ∨ entry.originalRequest.Encodable)
    (handled : TimedOut digests config entry.proxyState count world after) :
    (count ≤ config.maxRetries.toNat ∧ repliesTo entry.proxyState after = repliesTo entry.proxyState world ∧
      ∃ current, after.cache.lookup entry.proxyState = some current ∧ Retried entry count current) ∨
    (count = config.maxRetries.toNat + 1 ∧ Rejected digests entry world after) := by
  induction handled with
  | waiting undisturbed =>
    refine .inl ⟨Nat.zero_le _, undisturbed.replies, entry, undisturbed.entry.trans stored, ?_⟩
    exact ⟨rfl, rfl, rfl, rfl, by rw [fresh]; rfl⟩
  | @handled count _ middle next after current _ _ found run undisturbed ih =>
    rcases ih stored with ⟨atMost, replies, own, looked, retried⟩ | ⟨_, rejected⟩
    · obtain rfl : own = current := Option.some.inj (looked.symm.trans found)
      rcases Nat.lt_or_eq_of_le atMost with left | used
      · have encodable : entry.originalRequest.Encodable := by
          refine retriable.resolve_left ?_
          intro none
          rw [none] at left
          exact absurd left (Nat.not_lt_zero _)
        obtain ⟨retry, kept, again, unanswered⟩ := retried.retry encodable left found run
        exact .inl ⟨left, (undisturbed.replies.trans unanswered).trans replies, retry,
          undisturbed.entry.trans kept, again⟩
      · have rejected := undisturbed.rejected (retried.reject used.ge run)
        exact .inr ⟨by omega, rejected.reply.trans (by rw [replies]), rejected.gone⟩
    · rw [rejected.gone] at found
      cases found

theorem endsInReject (fresh : entry.retryCount = 0) (stored : world.cache.lookup entry.proxyState = some entry)
    (retriable : config.maxRetries = 0 ∨ entry.originalRequest.Encodable) :
    EndsInReject digests config entry world where
  progress := by
    intro count middle current result after handled found run
    rcases timedOut_stands fresh stored retriable handled with ⟨_, replies, own, looked, retried⟩ | ⟨_, rejected⟩
    · obtain rfl : own = current := Option.some.inj (looked.symm.trans found)
      rcases timedOut_stands fresh stored retriable (handled.handled found run ⟨rfl, rfl⟩) with
        ⟨_, _, next, kept, again⟩ | ⟨_, rejected⟩
      · exact .inl ⟨next, kept, by rw [again.retryCount, retried.retryCount]⟩
      · exact .inr ⟨rejected.reply.trans (by rw [replies]), rejected.gone⟩
    · rw [rejected.gone] at found
      cases found
  pending := by
    intro count middle atMost handled
    rcases timedOut_stands fresh stored retriable handled with ⟨_, _, current, looked, retried⟩ | ⟨past, _⟩
    · exact ⟨current, looked, retried.retryCount⟩
    · omega
  rejected := by
    intro after handled
    rcases timedOut_stands fresh stored retriable handled with ⟨atMost, _⟩ | ⟨_, rejected⟩
    · omega
    · exact rejected

theorem stuck (stored : world.cache.lookup entry.proxyState = some entry) (left : ¬ config.maxRetries ≤ entry.retryCount)
    (unencodable : ¬ entry.originalRequest.Encodable) : ¬ EndsInReject digests config entry world := by
  intro ends
  obtain ⟨result, after, run⟩ := exists_run False (handleTimeout digests config entry) world
  have outcome := ends.progress 0 world entry result after (.waiting ⟨rfl, rfl⟩) stored run
  rw [handleTimeout, if_neg left] at run
  rcases retryRequest_runs run with ⟨encodable, _⟩ | ⟨_, _, rfl⟩
  · exact unencodable encodable
  · rcases outcome with ⟨next, kept, advanced⟩ | rejected
    · obtain rfl : entry = next := Option.some.inj (stored.symm.trans kept)
      omega
    · have gone : world.cache.lookup entry.proxyState = none := rejected.gone
      rw [stored] at gone
      cases gone

theorem forwarded_pending {request : Packet} {source : SocketAddr} {homeServer : HomeServer} {clientSecret : Octets}
    {nasFails : Prop} {result : Except Fault ProxyStateKey}
    (run : Runs (Performs nasFails) (forwardRequest digests request source homeServer clientSecret) world result after)
    (stored : after.cache.lookup entry.proxyState = some entry) (new : world.cache.lookup entry.proxyState ≠ some entry) :
    Pending digests request source homeServer clientSecret world.counter entry := by
  rcases forwardRequest_runs run with ⟨_, _, rfl⟩ | ⟨built, pending, _, rfl⟩
  · exact absurd stored new
  · have found : (world.cache.insert built.proxyState built).lookup entry.proxyState = some entry := stored
    by_cases same : entry.proxyState = built.proxyState
    · rw [same, AList.lookup_insert] at found
      cases found
      exact pending
    · rw [AList.lookup_insert_ne same] at found
      exact absurd found new

end Counting

/-- An unanswered request that `forward_request` stored ends in a reject exactly
when the stored request encodes, or no retry is configured. -/
theorem endsInReject_iff {digests : Digests} {config : RetryConfig} {request : Packet} {source : SocketAddr}
    {homeServer : HomeServer} {clientSecret : Octets} {entry : ProxyCacheEntry} {before world : World}
    {result : Except Fault ProxyStateKey}
    (run : Runs (Performs True) (forwardRequest digests request source homeServer clientSecret) before result world)
    (stored : world.cache.lookup entry.proxyState = some entry)
    (new : before.cache.lookup entry.proxyState ≠ some entry) :
    EndsInReject digests config entry world ↔ config.maxRetries = 0 ∨ entry.originalRequest.Encodable := by
  have fresh := (forwarded_pending run stored new).fresh
  refine ⟨?_, endsInReject fresh stored⟩
  intro ends
  by_contra neither
  rw [not_or] at neither
  refine stuck stored ?_ neither.2 ends
  rw [fresh, UInt8.le_iff_toNat_le]
  intro atMost
  exact neither.1 (UInt8.toNat_inj.mp (Nat.le_zero.mp atMost))

/-- The home server of `sampleEntry`, over a RadSec link. -/
def radsecServer : HomeServer :=
  { sampleEntry.homeServer with transport := .radsec }

theorem plainEntry_rejected :
    EndsInReject .checksum sampleConfig plainEntry (forwardedWorld sampleEntry.originalRequest) := by
  obtain ⟨_, run⟩ := forwardedWorld_runs True sampleEntry.originalRequest
  have encodable : plainEntry.originalRequest.Encodable := ⟨by decide +kernel, by decide +kernel⟩
  exact (endsInReject_iff run (by decide +kernel) (by decide +kernel)).mpr (.inr encodable)

/-- `fullRequest` decodes, is stored by forwarding, and never ends in a reject. -/
theorem fullEntry_stuck :
    Packet.decode fullRequest.bytes = .ok fullRequest ∧
    (forwardedWorld fullRequest).cache.lookup fullEntry.proxyState = some fullEntry ∧
    ¬ EndsInReject .checksum sampleConfig fullEntry (forwardedWorld fullRequest) := by
  refine ⟨fullRequest_decodes, fullEntry_stored, stuck fullEntry_stored (by decide +kernel) ?_⟩
  intro encodable
  exact absurd encodable.small (by decide +kernel)

end UsgRadius.Proxy
