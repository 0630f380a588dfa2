import UsgRadius.Data.Maps
import UsgRadius.Data.Program
import UsgRadius.Proxy.Rewrite

namespace UsgRadius.Proxy

open Data

/-! The state the proxy's tasks share, and the single operations they perform
on it: one cache access, one counter update or one send at a time. -/

structure HomeServerStats where
  requestsSent : UInt64
  responsesReceived : UInt64
  timeouts : UInt64
  outstanding : UInt64
  lastResponse : Option Nat
deriving DecidableEq

namespace HomeServerStats

def default : HomeServerStats :=
  { requestsSent := 0, responsesReceived := 0, timeouts := 0, outstanding := 0, lastResponse := none }

def releaseOutstanding (stats : HomeServerStats) : HomeServerStats :=
  if stats.outstanding = 0 then stats else { stats with outstanding := stats.outstanding - 1 }

def recordRequest (stats : HomeServerStats) : HomeServerStats :=
  { stats with requestsSent := stats.requestsSent + 1, outstanding := stats.outstanding + 1 }

def recordResponse (stats : HomeServerStats) (now : Nat) : HomeServerStats :=
  { releaseOutstanding { stats with responsesReceived := stats.responsesReceived + 1 } with
    lastResponse := some now }

def recordTimeout (stats : HomeServerStats) : HomeServerStats :=
  releaseOutstanding { stats with timeouts := stats.timeouts + 1 }

end HomeServerStats

abbrev ProxyCache := AList fun _ : ProxyStateKey => ProxyCacheEntry

structure Reply where
  proxyState : ProxyStateKey
  address : SocketAddr
  bytes : Octets
deriving DecidableEq

structure World where
  cache : ProxyCache
  maxEntries : UInt64
  /-- How often `generate_proxy_state_key` was called; its `COUNTER` is this
  modulo 2^64. -/
  counter : Nat
  /-- The statistics of each home server, by its `Arc`. -/
  stats : Nat → HomeServerStats
  /-- The packets sent to NASes so far, latest first. -/
  replies : List Reply

namespace World

variable {world after : World} {entry : ProxyCacheEntry}

def initial (maxEntries : UInt64) : World where
  cache := ∅
  maxEntries := maxEntries
  counter := 0
  stats := fun _ => HomeServerStats.default
  replies := []

/-- `ProxyCache::insert`. -/
def insert (world : World) (entry : ProxyCacheEntry) : Except ProxyError Unit × World :=
  if world.maxEntries.toNat ≤ world.cache.entries.length ∧ entry.proxyState ∉ world.cache then
    (.error (.cacheFull world.cache.entries.length), world)
  else
    (.ok (), { world with cache := world.cache.insert entry.proxyState entry })

/-- `ProxyCache::remove`. -/
def remove (world : World) (key : ProxyStateKey) : Option ProxyCacheEntry × World :=
  (world.cache.lookup key, { world with cache := world.cache.erase key })

/-- The entries last sent more than `age` before `now`. -/
def olderThan (world : World) (now age : Nat) : List (Sigma fun _ : ProxyStateKey => ProxyCacheEntry) :=
  world.cache.entries.filter fun stored => age < now - stored.2.sentAt

theorem insert_ok (inserted : (.ok (), after) = world.insert entry) :
    (world.cache.entries.length < world.maxEntries.toNat ∨ entry.proxyState ∈ world.cache) ∧
      after = { world with cache := world.cache.insert entry.proxyState entry } := by
  unfold insert at inserted
  split at inserted
  · cases inserted
  · grind

theorem insert_error {reason : ProxyError} (refused : (.error reason, after) = world.insert entry) :
    entry.proxyState ∉ world.cache ∧ after = world := by
  unfold insert at refused
  split at refused
  · rename_i full
    cases refused
    exact ⟨full.2, rfl⟩
  · cases refused

def record (world : World) (server : HomeServer) (update : HomeServerStats → HomeServerStats) : World :=
  { world with
    stats := fun arc => if arc = server.arc then update (world.stats arc) else world.stats arc }

end World

/-- `generate_proxy_state_key` at a time, for the value of its counter. -/
def proxyStateKey (nanos counter : Nat) : ProxyStateKey :=
  ⟨toBe 8 nanos ++ toBe 8 counter, by simp⟩

/-- What a RadSec link handle shows: `is_connected()` and `connections()`. -/
structure LinkView where
  connected : Bool
  connections : UInt64
deriving DecidableEq

inductive LinkSendError where
  | down
  | busy
deriving DecidableEq

inductive Effect : Type → Type
  | now : Effect Nat
  | nextProxyState : Effect ProxyStateKey
  | link (server : HomeServer) : Effect (Option LinkView)
  | drawSalts : Effect SaltDraw
  | cacheInsert (entry : ProxyCacheEntry) : Effect (Except ProxyError Unit)
  | cacheGet (key : ProxyStateKey) : Effect (Option ProxyCacheEntry)
  | cacheRemove (key : ProxyStateKey) : Effect (Option ProxyCacheEntry)
  | cacheTimedOut (timeout : Nat) : Effect (List ProxyCacheEntry)
  | cacheExpired (ttl : Nat) : Effect (List ProxyStateKey)
  | recordRequest (server : HomeServer) : Effect Unit
  | recordResponse (server : HomeServer) : Effect Unit
  | recordTimeout (server : HomeServer) : Effect Unit
  | udpSend (address : SocketAddr) (bytes : Octets) : Effect Bool
  /-- `RadsecLinkHandle::send`: it looks whether the link is connected, and then
  puts the frame into the queue. -/
  | linkConnected (server : HomeServer) : Effect Bool
  | linkSend (server : HomeServer) (bytes : Octets) : Effect (Option LinkSendError)
  | linkReset (server : HomeServer) (generation : UInt64) : Effect Unit
  | nasSend (reply : Reply) : Effect Bool

/-- What an operation may answer and do. The clock, the links and the network
answer anything, and a scan lists the matching entries in any order. `nasFails`
says whether sends to a NAS may fail. -/
def Performs (nasFails : Prop) : Program.Semantics Effect World
  | _, .now, world, _, after => after = world
  | _, .nextProxyState, world, key, after =>
    (∃ nanos, key = proxyStateKey nanos world.counter) ∧ after = { world with counter := world.counter + 1 }
  | _, .link _, world, _, after => after = world
  | _, .drawSalts, world, _, after => after = world
  | _, .cacheInsert entry, world, answer, after => (answer, after) = world.insert entry
  | _, .cacheGet key, world, answer, after => answer = world.cache.lookup key ∧ after = world
  | _, .cacheRemove key, world, answer, after => (answer, after) = world.remove key
  | _, .cacheTimedOut timeout, world, entries, after =>
    (∃ now, entries.Perm ((world.olderThan now timeout).map Sigma.snd)) ∧ after = world
  | _, .cacheExpired ttl, world, keys, after =>
    (∃ now, keys.Perm ((world.olderThan now ttl).map Sigma.fst)) ∧ after = world
  | _, .recordRequest server, world, _, after => after = world.record server (·.recordRequest)
  | _, .recordResponse server, world, _, after => ∃ now, after = world.record server (·.recordResponse now)
  | _, .recordTimeout server, world, _, after => after = world.record server (·.recordTimeout)
  | _, .udpSend _ _, world, _, after => after = world
  | _, .linkConnected _, world, _, after => after = world
  | _, .linkSend _ _, world, _, after => after = world
  | _, .linkReset _ _, world, _, after => after = world
  | _, .nasSend reply, world, sent, after =>
    if sent then after = { world with replies := reply :: world.replies } else nasFails ∧ after = world

/-- One way the clock, the links and the network may behave. -/
structure Surroundings where
  time : Nat
  link : Option LinkView
  salts : SaltDraw
  udpSends : Bool
  linkSends : Option LinkSendError
  nasSends : Bool

/-- The outcome of an operation in given surroundings. -/
def perform (around : Surroundings) : (Answer : Type) → Effect Answer → World → Answer × World
  | _, .now, world => (around.time, world)
  | _, .nextProxyState, world =>
    (proxyStateKey around.time world.counter, { world with counter := world.counter + 1 })
  | _, .link _, world => (around.link, world)
  | _, .drawSalts, world => (around.salts, world)
  | _, .cacheInsert entry, world => world.insert entry
  | _, .cacheGet key, world => (world.cache.lookup key, world)
  | _, .cacheRemove key, world => world.remove key
  | _, .cacheTimedOut timeout, world => ((world.olderThan around.time timeout).map Sigma.snd, world)
  | _, .cacheExpired ttl, world => ((world.olderThan around.time ttl).map Sigma.fst, world)
  | _, .recordRequest server, world => ((), world.record server (·.recordRequest))
  | _, .recordResponse server, world => ((), world.record server (·.recordResponse around.time))
  | _, .recordTimeout server, world => ((), world.record server (·.recordTimeout))
  | _, .udpSend _ _, world => (around.udpSends, world)
  | _, .linkConnected _, world => (around.linkSends != some .down, world)
  | _, .linkSend _ _, world => (around.linkSends, world)
  | _, .linkReset _ _, world => ((), world)
  | _, .nasSend reply, world =>
    if around.nasSends then (true, { world with replies := reply :: world.replies }) else (false, world)

theorem perform_performs {nasFails : Prop} (around : Surroundings) (sends : around.nasSends = false → nasFails)
    (Answer : Type) (effect : Effect Answer) (world : World) :
    Performs nasFails Answer effect world (perform around Answer effect world).1
      (perform around Answer effect world).2 := by
  cases effect with
  | nextProxyState => exact ⟨⟨around.time, rfl⟩, rfl⟩
  | cacheGet key => exact ⟨rfl, rfl⟩
  | cacheTimedOut timeout | cacheExpired ttl => exact ⟨⟨around.time, .refl _⟩, rfl⟩
  | recordResponse server => exact ⟨around.time, rfl⟩
  | nasSend reply =>
    cases sent : around.nasSends with
    | false => simpa [Performs, perform, sent] using sends sent
    | true => simp [Performs, perform, sent]
  | _ => rfl

/-- Surroundings in which every send succeeds and no link is up. -/
def calm : Surroundings where
  time := 0
  link := none
  salts := ⟨0, 0⟩
  udpSends := true
  linkSends := none
  nasSends := true

theorem exists_run (nasFails : Prop) {Value : Type} (program : Program Effect Fault Value) (world : World) :
    ∃ result after, Program.Runs (Performs nasFails) program world result after :=
  ⟨_, _, Program.eval_runs (perform_performs calm (fun impossible => by cases impossible)) program world⟩

end UsgRadius.Proxy
