import UsgRadius.Proxy.Retry

namespace UsgRadius.Proxy

open Data Program HomeServerStats World

/-! The in-flight gauge of a home server against the cache, over sequences of
complete calls. -/

/-- How many cached requests are addressed to a home server. -/
def inFlight (cache : ProxyCache) (arc : Nat) : Nat :=
  Maps.countValues (fun entry => entry.homeServer.arc = arc) cache

namespace HomeServerStats

theorem releaseOutstanding_toNat (stats : HomeServerStats) :
    stats.releaseOutstanding.outstanding.toNat = stats.outstanding.toNat - 1 := by
  unfold releaseOutstanding
  split
  · rename_i idle
    simp [idle]
  · rename_i busy
    have positive : stats.outstanding.toNat ≠ 0 := fun zero => busy (UInt64.toNat_inj.mp zero)
    have atMost : (1 : UInt64) ≤ stats.outstanding := by
      rw [UInt64.le_iff_toNat_le]
      exact Nat.one_le_iff_ne_zero.mpr positive
    exact UInt64.toNat_sub_of_le _ _ atMost

@[simp] theorem recordTimeout_toNat (stats : HomeServerStats) :
    stats.recordTimeout.outstanding.toNat = stats.outstanding.toNat - 1 :=
  releaseOutstanding_toNat _

@[simp] theorem recordResponse_toNat (stats : HomeServerStats) (now : Nat) :
    (stats.recordResponse now).outstanding.toNat = stats.outstanding.toNat - 1 :=
  releaseOutstanding_toNat _

theorem recordRequest_toNat (stats : HomeServerStats) (room : stats.outstanding.toNat + 1 < 2 ^ 64) :
    stats.recordRequest.outstanding.toNat = stats.outstanding.toNat + 1 := by
  simp only [recordRequest, UInt64.toNat_add, UInt64.toNat_one]
  exact Nat.mod_eq_of_lt room

end HomeServerStats

def issuedAt (key : ProxyStateKey) : Nat :=
  fromBe (key.octets.drop 8)

theorem issuedAt_proxyStateKey (nanos : Nat) {counter : Nat} (small : counter < 2 ^ 64) :
    issuedAt (proxyStateKey nanos counter) = counter := by
  simp only [issuedAt, proxyStateKey]
  rw [List.drop_left' (by simp)]
  exact fromBe_toBe_of_lt small

/-- Every request is stored under the Proxy-State that it is sent with. -/
def Keyed (cache : ProxyCache) : Prop :=
  ∀ key entry, cache.lookup key = some entry →
    entry.proxyState = key ∧ lastProxyState entry.originalRequest = some key

structure Gauged (limit : UInt64) (world : World) : Prop where
  keyed : Keyed world.cache
  limited : world.maxEntries = limit
  outstanding : ∀ arc, (world.stats arc).outstanding.toNat = inFlight world.cache arc
  bounded : world.cache.entries.length ≤ world.maxEntries.toNat
  issued : ∀ key ∈ world.cache, issuedAt key < world.counter

theorem Gauged.initial (maxEntries : UInt64) : Gauged maxEntries (initial maxEntries) where
  keyed := fun _ _ found => by cases found
  limited := rfl
  outstanding := fun _ => rfl
  bounded := Nat.zero_le _
  issued := fun key member => absurd member (AList.notMem_empty key)

section Steps

variable {limit : UInt64} {world : World} {key : ProxyStateKey} {entry : ProxyCacheEntry} {cache : ProxyCache}

theorem Keyed.erase (keyed : Keyed cache) (key : ProxyStateKey) : Keyed (cache.erase key) := by
  grind [Keyed]

theorem Keyed.insert (keyed : Keyed cache) (own : lastProxyState entry.originalRequest = some entry.proxyState) :
    Keyed (cache.insert entry.proxyState entry) := by
  grind [Keyed]

theorem inFlight_erase (found : world.cache.lookup key = some entry) (arc : Nat) :
    inFlight world.cache arc = inFlight (world.cache.erase key) arc + if entry.homeServer.arc = arc then 1 else 0 := by
  simpa [inFlight] using Maps.countValues_erase (fun entry => entry.homeServer.arc = arc) found

theorem inFlight_insert (cache : ProxyCache) (key : ProxyStateKey) (entry : ProxyCacheEntry) (arc : Nat) :
    inFlight (cache.insert key entry) arc =
      inFlight (cache.erase key) arc + if entry.homeServer.arc = arc then 1 else 0 := by
  simpa [inFlight] using Maps.countValues_insert (fun entry => entry.homeServer.arc = arc) cache key entry

theorem Gauged.taken (gauged : Gauged limit world) (found : world.cache.lookup key = some entry)
    {update : HomeServerStats → HomeServerStats}
    (lowers : ∀ stats, (update stats).outstanding.toNat = stats.outstanding.toNat - 1) (replies : List Reply) :
    Gauged limit (record { world with cache := world.cache.erase key, replies } entry.homeServer update) := by
  refine ⟨gauged.keyed.erase key, gauged.limited, ?_, ?_, ?_⟩
  · intro arc
    have before := gauged.outstanding arc
    rw [inFlight_erase found] at before
    have lowered := lowers (world.stats arc)
    clear lowers
    show (if arc = entry.homeServer.arc then update (world.stats arc) else world.stats arc).outstanding.toNat =
      inFlight (world.cache.erase key) arc
    grind
  · exact (List.kerase_sublist key world.cache.entries).length_le.trans gauged.bounded
  · intro other member
    exact gauged.issued other (AList.mem_erase.mp member).2

theorem Gauged.stored (gauged : Gauged limit world)
    (own : lastProxyState entry.originalRequest = some entry.proxyState) (fresh : entry.proxyState ∉ world.cache)
    (room : world.cache.entries.length < world.maxEntries.toNat) {counter : Nat} (later : world.counter ≤ counter)
    (issued : issuedAt entry.proxyState < counter) :
    Gauged limit (record { world with counter, cache := world.cache.insert entry.proxyState entry }
      entry.homeServer (·.recordRequest)) := by
  have grown : (world.cache.insert entry.proxyState entry).entries.length = world.cache.entries.length + 1 := by
    rw [AList.entries_insert_of_notMem fresh, List.length_cons]
  refine ⟨gauged.keyed.insert own, gauged.limited, ?_, ?_, ?_⟩
  · intro arc
    have before := gauged.outstanding arc
    have after := inFlight_insert world.cache entry.proxyState entry arc
    rw [Maps.erase_of_notMem fresh] at after
    have small : inFlight world.cache arc + 1 < 2 ^ 64 := by
      have counted : inFlight world.cache arc ≤ world.cache.entries.length := List.countP_le_length
      have limit := world.maxEntries.toNat_lt
      omega
    have raised := recordRequest_toNat (world.stats arc) (before ▸ small)
    show (if arc = entry.homeServer.arc then (world.stats arc).recordRequest else world.stats arc).outstanding.toNat =
      inFlight (world.cache.insert entry.proxyState entry) arc
    grind
  · exact grown.trans_le room
  · intro other member
    rcases (AList.mem_insert _).mp member with rfl | old
    · exact issued
    · exact (gauged.issued other old).trans_le later

/-- Replacing an entry by a retry of it, once counted out and once counted in,
keeps the gauge. -/
theorem Gauged.retried {retried : ProxyCacheEntry} (gauged : Gauged limit world)
    (found : world.cache.lookup entry.proxyState = some entry) (advanced : Advanced entry retried) :
    Gauged limit (record { world.record entry.homeServer (·.recordTimeout) with
      cache := world.cache.insert entry.proxyState retried } entry.homeServer (·.recordRequest)) := by
  have present : retried.proxyState ∈ world.cache := by
    rw [advanced.proxyState]
    exact AList.lookup_isSome.mp (by rw [found]; rfl)
  have own : lastProxyState retried.originalRequest = some retried.proxyState := by
    rw [advanced.request, advanced.proxyState]
    exact (gauged.keyed _ _ found).2
  have out := gauged.taken found recordTimeout_toNat world.replies
  rw [← advanced.proxyState] at found out ⊢
  have absent : retried.proxyState ∉ world.cache.erase retried.proxyState :=
    fun member => (AList.mem_erase.mp member).1 rfl
  have room : (world.cache.erase retried.proxyState).entries.length < world.maxEntries.toNat := by
    have bounded := gauged.bounded
    rw [Maps.length_erase found] at bounded
    omega
  have back := @Gauged.stored limit _ retried out own absent room world.counter le_rfl (gauged.issued _ present)
  rw [advanced.homeServer] at back
  rw [← Maps.insert_erase]
  exact back

end Steps

/-- A complete call of the proxy. `timeout` handles one entry as it is stored
now; `tick` is a whole round of the retry manager, scan included. -/
inductive Call where
  | forward (request : Packet) (source : SocketAddr) (homeServer : HomeServer) (clientSecret : Octets)
  | respond (response : Packet) (origin : ResponseOrigin)
  | timeout (entry : ProxyCacheEntry)
  | tick (interval : Nat)
  | cleanup (ttl : Nat)

namespace Call

variable (digests : Digests) (config : RetryConfig)

def Happens : Call → World → World → Prop
  | forward request source homeServer clientSecret, before, after =>
    ∃ result, Runs (Performs True) (forwardRequest digests request source homeServer clientSecret)
      before result after
  | respond response origin, before, after =>
    ∃ result, Runs (Performs True) (handleResponseFrom digests response origin) before result after
  | timeout entry, before, after =>
    before.cache.lookup entry.proxyState = some entry ∧
      ∃ result, Runs (Performs True) (handleTimeout digests config entry) before result after
  | tick interval, before, after =>
    ∃ result, Runs (Performs True) (retryTick digests config interval) before result after
  | cleanup ttl, before, after => ∃ result, Runs (Performs True) (cleanupTick ttl) before result after

/-- The calls of a sequence that all meet a condition on the call and the state
it is made in. -/
def Reaches (Condition : Call → World → Prop) : World → World → Prop :=
  Relation.ReflTransGen fun before after => ∃ call, Condition call before ∧ Happens digests config call before after

end Call

def Retriable (config : RetryConfig) (entry : ProxyCacheEntry) : Prop :=
  config.maxRetries ≤ entry.retryCount ∨ entry.originalRequest.Encodable

/-- What a call needs to keep the gauge: timeouts are handled for retriable
entries only, and the counter of Proxy-State keys has not wrapped around. -/
def Call.KeepsGauge (config : RetryConfig) : Call → World → Prop
  | forward _ _ _ _, world => world.counter < 2 ^ 64
  | timeout entry, _ => Retriable config entry
  | tick _, world => ∀ key entry, world.cache.lookup key = some entry → Retriable config entry
  | _, _ => True

section Calls

variable {digests : Digests} {config : RetryConfig} {limit : UInt64} {before after : World}
  {result : Except Fault Unit} {entries : List ProxyCacheEntry} {timeout : Nat}

theorem forward_gauged {request : Packet} {source : SocketAddr} {homeServer : HomeServer} {clientSecret : Octets}
    {result : Except Fault ProxyStateKey} (gauged : Gauged limit before) (small : before.counter < 2 ^ 64)
    (run : Runs (Performs True) (forwardRequest digests request source homeServer clientSecret) before result after) :
    Gauged limit after := by
  rcases forwardRequest_runs run with ⟨issued, _, rfl⟩ | ⟨entry, pending, room, rfl⟩
  · exact ⟨gauged.keyed, gauged.limited, gauged.outstanding, gauged.bounded, fun key member =>
      (gauged.issued key member).trans_le (Nat.le_add_right _ _)⟩
  · obtain ⟨nanos, generated⟩ := pending.proxyState
    have issued : issuedAt entry.proxyState = before.counter := by
      rw [generated, issuedAt_proxyStateKey nanos small]
    have fresh : entry.proxyState ∉ before.cache := by
      intro member
      have old := gauged.issued _ member
      omega
    rw [← pending.homeServer]
    exact gauged.stored (rewriteRequest_lastProxyState pending.request) fresh (room.resolve_right fresh)
      (Nat.le_succ _) (by omega)

theorem respond_gauged {response : Packet} {origin : ResponseOrigin} (gauged : Gauged limit before)
    (run : Runs (Performs True) (handleResponseFrom digests response origin) before result after) : Gauged limit after := by
  rcases handleResponseFrom_runs run with rfl | ⟨proxyState, entry, attributed, relayed⟩
  · exact gauged
  · obtain ⟨now, replies, _, rfl⟩ := relayResponse_runs relayed
    exact gauged.taken attributed.stored (recordResponse_toNat · now) (replies ++ before.replies)

theorem timeout_gauged {entry : ProxyCacheEntry} (gauged : Gauged limit before)
    (stored : before.cache.lookup entry.proxyState = some entry) (retriable : Retriable config entry)
    (run : Runs (Performs True) (handleTimeout digests config entry) before result after) : Gauged limit after := by
  by_cases exhausted : config.maxRetries ≤ entry.retryCount
  · rcases handleTimeout_exhausted_runs exhausted run with rfl | ⟨_, rfl⟩
    · exact gauged.taken stored recordTimeout_toNat _
    · exact gauged
  · rw [handleTimeout, if_neg exhausted] at run
    rcases retryRequest_runs run with ⟨_, retried, advanced, _, rfl⟩ | ⟨unstored, _, _⟩
    · exact gauged.retried stored advanced
    · rcases unstored with unencodable | absent
      · exact absurd (retriable.resolve_left exhausted) unencodable
      · exact absurd (AList.lookup_isSome.mp (by rw [stored]; rfl)) absent

theorem handleTimeouts_gauged (gauged : Gauged limit before)
    (stored : ∀ entry ∈ entries, before.cache.lookup entry.proxyState = some entry)
    (distinct : (entries.map (·.proxyState)).Nodup) (retriable : ∀ entry ∈ entries, Retriable config entry)
    (run : Runs (Performs True) (handleTimeouts digests config entries) before result after) : Gauged limit after := by
  induction entries generalizing before with
  | nil =>
    obtain ⟨_, rfl⟩ := runs_done.mp run
    exact gauged
  | cons entry rest ih =>
    rw [handleTimeouts, runs_attempt_bind] at run
    obtain ⟨outcome, middle, own, run⟩ := run
    have handled := timeout_gauged gauged (stored entry (by simp)) (retriable entry (by simp)) own
    obtain ⟨different, restDistinct⟩ := List.nodup_cons.mp distinct
    split at run
    · obtain ⟨_, rfl⟩ := runs_done.mp run
      exact handled
    · refine ih handled ?_ restDistinct (fun next member => retriable next (by simp [member])) run
      -- The entries still to come are the ones the scan saw.
      intro next member
      have other : next.proxyState ≠ entry.proxyState := by
        intro same
        exact different (List.mem_map.mpr ⟨next, member, same⟩)
      rw [handleTimeout_other other own]
      exact stored next (by simp [member])

theorem Keyed.listed (keyed : Keyed before.cache) {now : Nat}
    (listed : entries.Perm ((before.olderThan now timeout).map Sigma.snd)) :
    (∀ entry ∈ entries, before.cache.lookup entry.proxyState = some entry) ∧
      (entries.map (·.proxyState)).Nodup := by
  have found : ∀ stored ∈ before.olderThan now timeout, before.cache.lookup stored.1 = some stored.2 := by
    intro stored member
    exact List.mem_dlookup before.cache.nodupKeys (List.mem_of_mem_filter member)
  refine ⟨?_, ?_⟩
  · intro entry member
    obtain ⟨stored, present, rfl⟩ := List.mem_map.mp (listed.mem_iff.mp member)
    have looked := found stored present
    rw [(keyed _ _ looked).1]
    exact looked
  · have keys : ((before.olderThan now timeout).map Sigma.snd).map (·.proxyState) =
        (before.olderThan now timeout).map Sigma.fst := by
      rw [List.map_map]
      exact List.map_congr_left fun stored present => (keyed _ _ (found stored present)).1
    rw [(listed.map _).nodup_iff, keys]
    exact List.Nodup.sublist (List.filter_sublist.map Sigma.fst) before.cache.nodupKeys

theorem tick_gauged (gauged : Gauged limit before)
    (retriable : ∀ key entry, before.cache.lookup key = some entry → Retriable config entry)
    (run : Runs (Performs True) (retryTick digests config timeout) before result after) : Gauged limit after := by
  simp only [retryTick, ask_bind, runs_perform, Performs] at run
  obtain ⟨entries, _, ⟨⟨now, listed⟩, rfl⟩, run⟩ := run
  obtain ⟨stored, distinct⟩ := gauged.keyed.listed listed
  exact handleTimeouts_gauged gauged stored distinct
    (fun entry member => retriable _ _ (stored entry member)) run

theorem removeExpired_gauged {keys : List ProxyStateKey} (gauged : Gauged limit before)
    (run : Runs (Performs True) (removeExpired keys) before result after) : Gauged limit after := by
  induction keys generalizing before with
  | nil =>
    obtain ⟨_, rfl⟩ := runs_done.mp run
    exact gauged
  | cons key rest ih =>
    simp only [removeExpired, ask_bind, runs_perform, Performs, remove, Prod.mk.injEq] at run
    obtain ⟨removed, _, ⟨rfl, rfl⟩, run⟩ := run
    cases found : before.cache.lookup key with
    | none =>
      have absent : before.cache.erase key = before.cache :=
        Maps.erase_of_notMem (AList.lookup_eq_none.mp found)
      simp only [found, absent] at run
      exact ih gauged run
    | some entry =>
      simp only [found, runs_perform, Performs] at run
      obtain ⟨_, _, rfl, run⟩ := run
      exact ih (gauged.taken found recordTimeout_toNat before.replies) run

theorem cleanup_gauged {ttl : Nat} (gauged : Gauged limit before)
    (run : Runs (Performs True) (cleanupTick ttl) before result after) : Gauged limit after := by
  simp only [cleanupTick, ask_bind, runs_perform, Performs] at run
  obtain ⟨expired, _, ⟨_, rfl⟩, run⟩ := run
  exact removeExpired_gauged gauged run

theorem happens_gauged {call : Call} (gauged : Gauged limit before) (keeps : call.KeepsGauge config before)
    (happens : call.Happens digests config before after) : Gauged limit after := by
  cases call with
  | forward request source homeServer clientSecret =>
    obtain ⟨_, run⟩ := happens
    exact forward_gauged gauged keeps run
  | respond response origin =>
    obtain ⟨_, run⟩ := happens
    exact respond_gauged gauged run
  | timeout entry =>
    obtain ⟨stored, _, run⟩ := happens
    exact timeout_gauged gauged stored keeps run
  | tick interval =>
    obtain ⟨_, run⟩ := happens
    exact tick_gauged gauged keeps run
  | cleanup ttl =>
    obtain ⟨_, run⟩ := happens
    exact cleanup_gauged gauged run

theorem reaches_gauged (gauged : Gauged limit before)
    (run : Call.Reaches digests config (Call.KeepsGauge config) before after) : Gauged limit after := by
  induction run with
  | refl => exact gauged
  | tail _ step ih =>
    obtain ⟨call, keeps, happens⟩ := step
    exact happens_gauged ih keeps happens

end Calls

/-- The in-flight gauge: after any sequence of calls in which every retried
request can still be encoded, the outstanding counter of each home server is
the number of its entries in the cache. -/
theorem outstanding_eq_inFlight {digests : Digests} {config : RetryConfig} {maxEntries : UInt64} {world : World}
    (run : Call.Reaches digests config (Call.KeepsGauge config) (initial maxEntries) world) (arc : Nat) :
    (world.stats arc).outstanding.toNat = inFlight world.cache arc :=
  (reaches_gauged (Gauged.initial maxEntries) run).outstanding arc

def sampleConfig : RetryConfig where
  maxRetries := 3
  failoverOnTimeout := true

/-- The entry stored for a request without attributes. -/
def plainEntry : ProxyCacheEntry :=
  { sampleEntry with
    originalRequest := sampleEntry.originalRequest.addAttribute
      ⟨AttributeType.proxyState.asU8, (proxyStateKey 0 0).octets⟩
    proxyState := proxyStateKey 0 0 }

def plainAccept : Packet :=
  let unsigned : Packet :=
    { code := .accessAccept, identifier := 7, authenticator := Block.zero 16
      attributes := [⟨AttributeType.proxyState.asU8, (proxyStateKey 0 0).octets⟩] }
  { unsigned with authenticator := Auth.responseDigest .checksum unsigned (Block.fill 16 9) [4, 5] }

/-- A request is forwarded and times out, another one is forwarded, and the first
is answered. -/
def sampleCourse : World :=
  let retried := ((handleTimeout .checksum sampleConfig plainEntry).eval (perform calm)
    (forwardedWorld sampleEntry.originalRequest)).2
  let again := ((forwardRequest .checksum sampleRequest sampleEntry.originalSource sampleEntry.homeServer
    [1, 2]).eval (perform calm) retried).2
  ((handleResponseFrom .checksum plainAccept (.udp sampleEntry.homeServer.address)).eval (perform calm) again).2

theorem sampleCourse_reached :
    Call.Reaches .checksum sampleConfig (Call.KeepsGauge sampleConfig) (initial 10) sampleCourse := by
  have evaluates {Value : Type} (program : Program Effect Fault Value) (world : World) :=
    eval_runs (perform_performs calm (fun _ => trivial)) program world
  have encodable : plainEntry.originalRequest.Encodable := ⟨by decide +kernel, by decide +kernel⟩
  have forwarded : Call.Reaches .checksum sampleConfig (Call.KeepsGauge sampleConfig) (initial 10)
      (forwardedWorld sampleEntry.originalRequest) :=
    .single ⟨.forward sampleEntry.originalRequest sampleEntry.originalSource sampleEntry.homeServer [1, 2],
      show 0 < 2 ^ 64 by decide, forwardedWorld_runs True _⟩
  have retried := forwarded.tail ⟨.timeout plainEntry, .inr encodable, by decide +kernel, _, evaluates _ _⟩
  have again := retried.tail ⟨.forward sampleRequest sampleEntry.originalSource sampleEntry.homeServer [1, 2],
    show World.counter _ < 2 ^ 64 by decide +kernel, _, evaluates _ _⟩
  exact again.tail ⟨.respond plainAccept (.udp sampleEntry.homeServer.address), trivial, _, evaluates _ _⟩

theorem sampleCourse_gauged :
    inFlight sampleCourse.cache 0 = 1 ∧ (sampleCourse.stats 0).outstanding.toNat = 1 ∧
      sampleCourse.replies.length = 1 := by
  have counted : inFlight sampleCourse.cache 0 = 1 := by decide +kernel
  exact ⟨counted, (outstanding_eq_inFlight sampleCourse_reached 0).trans counted, by decide +kernel⟩

/-- An Access-Request of 4087 octets: it decodes, but with a Proxy-State added it
is longer than a RADIUS packet can be. -/
def fullRequest : Packet where
  code := .accessRequest
  identifier := 7
  authenticator := Block.fill 16 9
  attributes := List.replicate 15 ⟨25, List.replicate 253 0⟩ ++ [⟨25, List.replicate 240 0⟩]

/-- The entry stored for `fullRequest`. -/
def fullEntry : ProxyCacheEntry :=
  { sampleEntry with
    originalRequest := fullRequest.addAttribute ⟨AttributeType.proxyState.asU8, (proxyStateKey 0 0).octets⟩
    proxyState := proxyStateKey 0 0 }

/-- The requests and responses of a call were decoded from octets. -/
def Call.Decoded : Call → World → Prop
  | forward request _ _ _, _ => ∃ data, Packet.decode data = .ok request
  | respond response _, _ => ∃ data, Packet.decode data = .ok response
  | _, _ => True

theorem fullRequest_decodes : Packet.decode fullRequest.bytes = .ok fullRequest :=
  Packet.decode_of_encode (Packet.encode_eq_ok.mpr ⟨⟨by decide +kernel, by decide +kernel⟩, rfl⟩)

theorem fullEntry_stored : (forwardedWorld fullRequest).cache.lookup fullEntry.proxyState = some fullEntry := by
  decide +kernel

/-- Forwarding `fullRequest` and handling its first timeout leaves its entry in
the cache with nothing outstanding. -/
theorem fullRequest_uncounted :
    ∃ world, Call.Reaches .checksum sampleConfig Call.Decoded (initial 10) world ∧
      (world.stats 0).outstanding.toNat ≠ inFlight world.cache 0 := by
  let handled := ((handleTimeout .checksum sampleConfig fullEntry).eval (perform calm)
    (forwardedWorld fullRequest)).2
  have first : Call.Reaches .checksum sampleConfig Call.Decoded (initial 10)
      (forwardedWorld fullRequest) :=
    .single ⟨.forward fullRequest sampleEntry.originalSource sampleEntry.homeServer [1, 2],
      ⟨_, fullRequest_decodes⟩, forwardedWorld_runs True fullRequest⟩
  have second : Call.Happens .checksum sampleConfig (.timeout fullEntry) (forwardedWorld fullRequest) handled :=
    ⟨fullEntry_stored, _, eval_runs (perform_performs calm (fun _ => trivial)) _ _⟩
  exact ⟨handled, first.tail ⟨.timeout fullEntry, trivial, second⟩, by decide +kernel⟩

/-- A pending request is found under the Proxy-State it is sent with, there are no
more than were configured, and no request to come can take its place: the next
key is a new one. -/
theorem pending_distinct {digests : Digests} {config : RetryConfig} {maxEntries : UInt64} {world : World}
    (run : Call.Reaches digests config (Call.KeepsGauge config) (initial maxEntries) world)
    (small : world.counter < 2 ^ 64) :
    Keyed world.cache ∧ world.cache.entries.length ≤ maxEntries.toNat ∧
      ∀ nanos, proxyStateKey nanos world.counter ∉ world.cache := by
  have gauged := reaches_gauged (Gauged.initial maxEntries) run
  refine ⟨gauged.keyed, gauged.limited ▸ gauged.bounded, ?_⟩
  intro nanos member
  have issued := gauged.issued _ member
  rw [issuedAt_proxyStateKey nanos small] at issued
  exact lt_irrefl _ issued

theorem sampleCourse_distinct :
    (∃ entry, sampleCourse.cache.lookup (proxyStateKey 0 1) = some entry ∧ entry.proxyState = proxyStateKey 0 1 ∧
      lastProxyState entry.originalRequest = some (proxyStateKey 0 1)) ∧
    sampleCourse.cache.entries.length ≤ 10 ∧ sampleCourse.counter = 2 ∧ proxyStateKey 0 2 ∉ sampleCourse.cache := by
  have counter : sampleCourse.counter = 2 := by decide +kernel
  obtain ⟨keyed, bounded, fresh⟩ := pending_distinct sampleCourse_reached (by rw [counter]; decide)
  have present : (sampleCourse.cache.lookup (proxyStateKey 0 1)).isSome = true := by decide +kernel
  obtain ⟨entry, found⟩ := Option.isSome_iff_exists.mp present
  exact ⟨⟨entry, found, keyed _ _ found⟩, bounded, counter, counter ▸ fresh 0⟩

end UsgRadius.Proxy
