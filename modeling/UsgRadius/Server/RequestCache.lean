import UsgRadius.Data.Maps
import UsgRadius.Proxy.Entry

namespace UsgRadius

open Data

/-! Duplicate detection: recent requests, and the replies they got. -/

structure RequestFingerprint where
  sourceIp : IpAddr
  identifier : UInt8
  authPrefix : Block 8
deriving DecidableEq

def RequestFingerprint.new (sourceIp : IpAddr) (identifier : UInt8) (authenticator : Block 16) : RequestFingerprint where
  sourceIp
  identifier
  authPrefix := ⟨authenticator.octets.take 8, by simp⟩

/-- `request_digest`, for a given SHA-256. -/
def requestDigest (sha256 : Octets → Block 32) (secret request : Octets) : Block 32 :=
  sha256 (toBe 8 secret.length ++ secret ++ request)

inductive Admission where
  | new
  | inProgress
  | replay (reply : Octets)
  | conflict
deriving DecidableEq

structure CacheEntry where
  insertedAt : Nat
  requestDigest : Block 32
  source : SocketAddr
  reply : Option Octets
  replays : UInt8
deriving DecidableEq

structure RequestCache where
  cache : AList fun _ : RequestFingerprint => CacheEntry
  ttl : Nat
  maxEntries : Nat

namespace RequestCache

def maxReplaysPerRequest : UInt8 := 8

/-- Room for one more: an arbitrary entry goes, here `victim`. -/
def makeRoom (requests : RequestCache) (fingerprint : RequestFingerprint) (victim : Option RequestFingerprint) :
    RequestCache :=
  if requests.maxEntries ≤ requests.cache.entries.length ∧ fingerprint ∉ requests.cache then
    match victim with
    | some key => { requests with cache := requests.cache.erase key }
    | none => requests
  else
    requests

def readmit (requests : RequestCache) (now : Nat) (fingerprint : RequestFingerprint) (entry fresh : CacheEntry) :
    Admission × RequestCache :=
  if requests.ttl < now - entry.insertedAt then
    (.new, { requests with cache := requests.cache.insert fingerprint fresh })
  else if entry.requestDigest ≠ fresh.requestDigest then
    (.conflict, requests)
  else if entry.source ≠ fresh.source ∨ maxReplaysPerRequest ≤ entry.replays then
    (.inProgress, requests)
  else
    match entry.reply with
    | some reply =>
      (.replay reply,
        { requests with cache := requests.cache.insert fingerprint { entry with replays := entry.replays + 1 } })
    | none => (.inProgress, requests)

/-- `admit` at the time `now`, when the iterator over the map would start at `victim`. -/
def admitRequest (requests : RequestCache) (now : Nat) (victim : Option RequestFingerprint)
    (fingerprint : RequestFingerprint) (source : SocketAddr) (digest : Block 32) : Admission × RequestCache :=
  let requests := requests.makeRoom fingerprint victim
  let fresh : CacheEntry :=
    { insertedAt := now, requestDigest := digest, source, reply := none, replays := 0 }
  match requests.cache.lookup fingerprint with
  | none => (.new, { requests with cache := requests.cache.insert fingerprint fresh })
  | some entry => requests.readmit now fingerprint entry fresh

def storeReply (requests : RequestCache) (fingerprint : RequestFingerprint) (digest : Block 32) (reply : Octets) :
    RequestCache :=
  match requests.cache.lookup fingerprint with
  | none => requests
  | some entry =>
    if entry.requestDigest = digest then
      { requests with cache := requests.cache.insert fingerprint { entry with reply := some reply } }
    else
      requests

def expiredKeys (requests : RequestCache) (now : Nat) : List RequestFingerprint :=
  (requests.cache.entries.filter fun entry => requests.ttl < now - entry.2.insertedAt).map Sigma.fst

/-- An entry goes unless it has been replaced by a fresh one. -/
def removeIfExpired (now : Nat) (requests : RequestCache) (key : RequestFingerprint) : RequestCache :=
  match requests.cache.lookup key with
  | none => requests
  | some entry =>
    if requests.ttl < now - entry.insertedAt then { requests with cache := requests.cache.erase key } else requests

def cleanup (requests : RequestCache) (now : Nat) : RequestCache :=
  (requests.expiredKeys now).foldl (removeIfExpired now) requests

def clear (requests : RequestCache) : RequestCache :=
  { requests with cache := ∅ }

section Operations

variable {requests : RequestCache} {fingerprint : RequestFingerprint} {victim : Option RequestFingerprint} {now : Nat}
  {source : SocketAddr} {digest : Block 32}

def Starts (requests : RequestCache) : Option RequestFingerprint → Prop
  | some key => key ∈ requests.cache
  | none => requests.cache = ∅

theorem exists_starts (requests : RequestCache) : ∃ victim, requests.Starts victim := by
  obtain ⟨⟨entries, distinct⟩, ttl, maxEntries⟩ := requests
  cases entries with
  | nil => exact ⟨none, rfl⟩
  | cons entry rest => exact ⟨some entry.1, List.mem_cons_self⟩

/-- The entry that goes to make room. -/
def evicted (requests : RequestCache) (fingerprint : RequestFingerprint) (victim : Option RequestFingerprint) :
    Option RequestFingerprint :=
  if requests.maxEntries ≤ requests.cache.entries.length ∧ fingerprint ∉ requests.cache then victim else none

theorem makeRoom_of_mem (present : fingerprint ∈ requests.cache) : requests.makeRoom fingerprint victim = requests :=
  if_neg fun full => full.2 present

theorem makeRoom_eq (requests : RequestCache) (fingerprint : RequestFingerprint) (victim : Option RequestFingerprint) :
    requests.makeRoom fingerprint victim =
      match requests.evicted fingerprint victim with
      | some key => { requests with cache := requests.cache.erase key }
      | none => requests := by
  unfold makeRoom evicted
  split <;> cases victim <;> rfl

theorem evicted_of_mem (present : fingerprint ∈ requests.cache) : requests.evicted fingerprint victim = none :=
  if_neg fun full => full.2 present

theorem lookup_makeRoom (requests : RequestCache) (fingerprint : RequestFingerprint) (victim : Option RequestFingerprint)
    (other : RequestFingerprint) :
    (requests.makeRoom fingerprint victim).cache.lookup other =
      if requests.evicted fingerprint victim = some other then none else requests.cache.lookup other := by
  rw [makeRoom_eq]
  cases requests.evicted fingerprint victim with
  | none => rfl
  | some key =>
    grind

inductive Admits (requests : RequestCache) (now : Nat) (victim : Option RequestFingerprint)
    (fingerprint : RequestFingerprint) (source : SocketAddr) (digest : Block 32) : Admission → RequestCache → Prop
  | new (absent : ∀ entry, requests.cache.lookup fingerprint = some entry → requests.ttl < now - entry.insertedAt) :
      Admits requests now victim fingerprint source digest .new
        { requests with cache := (requests.makeRoom fingerprint victim).cache.insert fingerprint ⟨now, digest, source, none, 0⟩ }
  | replay {entry : CacheEntry} {reply : Octets} (found : requests.cache.lookup fingerprint = some entry)
      (sameDigest : entry.requestDigest = digest) (sameSource : entry.source = source)
      (below : entry.replays < maxReplaysPerRequest) (replied : entry.reply = some reply) :
      Admits requests now victim fingerprint source digest (.replay reply)
        { requests with cache := requests.cache.insert fingerprint { entry with replays := entry.replays + 1 } }
  | refused {answer : Admission} (present : fingerprint ∈ requests.cache)
      (refuses : answer = .conflict ∨ answer = .inProgress) :
      Admits requests now victim fingerprint source digest answer requests

theorem readmit_admits {entry : CacheEntry} (found : requests.cache.lookup fingerprint = some entry) :
    Admits requests now victim fingerprint source digest
      (requests.readmit now fingerprint entry ⟨now, digest, source, none, 0⟩).1
      (requests.readmit now fingerprint entry ⟨now, digest, source, none, 0⟩).2 := by
  have present : fingerprint ∈ requests.cache := AList.lookup_isSome.mp (by rw [found]; rfl)
  unfold readmit
  by_cases expired : requests.ttl < now - entry.insertedAt
  · rw [if_pos expired]
    have renewed : Admits requests now victim fingerprint source digest .new _ := .new fun other looked => by
      rw [found, Option.some.injEq] at looked
      exact looked ▸ expired
    rw [makeRoom_of_mem present] at renewed
    exact renewed
  · rw [if_neg expired]
    by_cases differs : entry.requestDigest ≠ digest
    · rw [if_pos differs]
      exact .refused present (.inl rfl)
    · rw [if_neg differs]
      by_cases barred : entry.source ≠ source ∨ maxReplaysPerRequest ≤ entry.replays
      · rw [if_pos barred]
        exact .refused present (.inr rfl)
      · rw [if_neg barred]
        rw [not_or, not_not, UInt8.not_le] at barred
        cases replied : entry.reply with
        | none => exact .refused present (.inr rfl)
        | some reply =>
          have replayed : Admits requests now victim fingerprint source digest (.replay reply) _ :=
            .replay found (not_not.mp differs) barred.1 barred.2 replied
          rw [replied] at replayed
          exact replayed

theorem admitRequest_admits (requests : RequestCache) (now : Nat) (victim : Option RequestFingerprint)
    (fingerprint : RequestFingerprint) (source : SocketAddr) (digest : Block 32) :
    Admits requests now victim fingerprint source digest
      (requests.admitRequest now victim fingerprint source digest).1
      (requests.admitRequest now victim fingerprint source digest).2 := by
  unfold admitRequest
  cases found : requests.cache.lookup fingerprint with
  | some entry =>
    have present : fingerprint ∈ requests.cache := AList.lookup_isSome.mp (by rw [found]; rfl)
    simp only [makeRoom_of_mem present, found]
    exact readmit_admits found
  | none =>
    have absent : (requests.makeRoom fingerprint victim).cache.lookup fingerprint = none := by
      rw [lookup_makeRoom, found, ite_self]
    simp only [absent]
    have admitted : Admits requests now victim fingerprint source digest .new _ := .new (by simp [found])
    have settings : (requests.makeRoom fingerprint victim).ttl = requests.ttl ∧
        (requests.makeRoom fingerprint victim).maxEntries = requests.maxEntries := by
      rw [makeRoom_eq]
      cases requests.evicted fingerprint victim <;> exact ⟨rfl, rfl⟩
    rw [settings.1, settings.2]
    exact admitted

theorem admitRequest_new_iff :
    (requests.admitRequest now victim fingerprint source digest).1 = .new ↔
      ∀ entry, requests.cache.lookup fingerprint = some entry → requests.ttl < now - entry.insertedAt := by
  have admits := requests.admitRequest_admits now victim fingerprint source digest
  refine ⟨fun new => ?_, fun absent => ?_⟩
  · rw [new] at admits
    generalize (requests.admitRequest now victim fingerprint source digest).2 = later at admits
    cases admits with
    | new absent => exact absent
    | refused _ refuses => rcases refuses with impossible | impossible <;> cases impossible
  · unfold admitRequest
    cases found : requests.cache.lookup fingerprint with
    | none =>
      have gone : (requests.makeRoom fingerprint victim).cache.lookup fingerprint = none := by
        rw [lookup_makeRoom, found, ite_self]
      simp only [gone]
    | some entry =>
      have present : fingerprint ∈ requests.cache := AList.lookup_isSome.mp (by rw [found]; rfl)
      simp only [makeRoom_of_mem present, found, readmit, if_pos (absent entry found)]

/-- `after` is `requests` without the expired ones of the entries for `keys`. -/
structure Purged (requests : RequestCache) (now : Nat) (keys : List RequestFingerprint) (after : RequestCache) : Prop where
  ttl : after.ttl = requests.ttl
  maxEntries : after.maxEntries = requests.maxEntries
  fewer : after.cache.entries.length ≤ requests.cache.entries.length
  lookup : ∀ other, after.cache.lookup other =
    if other ∈ keys then (requests.cache.lookup other).filter fun entry => !decide (requests.ttl < now - entry.insertedAt)
    else requests.cache.lookup other

theorem removeIfExpired_purged (now : Nat) (requests : RequestCache) (key : RequestFingerprint) :
    requests.Purged now [key] (removeIfExpired now requests key) := by
  unfold removeIfExpired
  cases found : requests.cache.lookup key with
  | none => exact ⟨rfl, rfl, le_rfl, by grind⟩
  | some entry =>
    by_cases expired : requests.ttl < now - entry.insertedAt
    · simp only [if_pos expired]
      refine ⟨rfl, rfl, Maps.length_erase_le _ _, fun other => ?_⟩
      by_cases own : other = key
      · subst own
        simp [found, expired, Option.filter]
      · simp [own]
    · simp only [if_neg expired]
      exact ⟨rfl, rfl, le_rfl, by grind⟩

theorem foldl_removeIfExpired_purged (now : Nat) (keys : List RequestFingerprint) (requests : RequestCache) :
    requests.Purged now keys (keys.foldl (removeIfExpired now) requests) := by
  induction keys generalizing requests with
  | nil => exact ⟨rfl, rfl, le_rfl, by simp⟩
  | cons key rest ih =>
    have first := removeIfExpired_purged now requests key
    have later := ih (removeIfExpired now requests key)
    refine ⟨later.ttl.trans first.ttl, later.maxEntries.trans first.maxEntries, later.fewer.trans first.fewer, ?_⟩
    intro other
    rw [List.foldl_cons, later.lookup, first.ttl, first.lookup]
    cases requests.cache.lookup other <;> grind

theorem cleanup_purged (requests : RequestCache) (now : Nat) :
    requests.Purged now (requests.expiredKeys now) (requests.cleanup now) :=
  foldl_removeIfExpired_purged now _ requests

theorem lookup_cleanup (requests : RequestCache) (now : Nat) (other : RequestFingerprint) :
    (requests.cleanup now).cache.lookup other =
      (requests.cache.lookup other).filter fun entry => !decide (requests.ttl < now - entry.insertedAt) := by
  rw [(requests.cleanup_purged now).lookup]
  split
  next => rfl
  next kept =>
    cases found : requests.cache.lookup other with
    | none => rfl
    | some entry =>
      have member : ⟨other, entry⟩ ∈ requests.cache.entries := AList.mem_lookup_iff.mp found
      have current : ¬ requests.ttl < now - entry.insertedAt := fun expired =>
        kept (List.mem_map.mpr ⟨⟨other, entry⟩, List.mem_filter.mpr ⟨member, by simpa using expired⟩, rfl⟩)
      simp [current, Option.filter]

end Operations

def samplePeer : SocketAddr :=
  ⟨.ofOctets 192 0 2 1, 1812⟩

def sampleFingerprint (identifier : UInt8) : RequestFingerprint :=
  .new samplePeer.ip identifier (.fill 16 9)

end RequestCache

end UsgRadius
