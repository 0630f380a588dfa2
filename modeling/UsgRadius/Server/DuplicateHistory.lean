import UsgRadius.Server.RequestCache

namespace UsgRadius.RequestCache

open Data

/-! The duplicate cache over sequences of operations: what an answer says about
the operations before it. -/

inductive Operation where
  /-- An `admit`, with the entry that went to make room and the answer. -/
  | admitted (fingerprint : RequestFingerprint) (source : SocketAddr) (digest : Block 32)
      (evicted : Option RequestFingerprint) (answer : Admission)
  | stored (fingerprint : RequestFingerprint) (digest : Block 32) (reply : Octets)
  | cleaned
  | cleared
deriving DecidableEq

structure Event where
  time : Nat
  operation : Operation
deriving DecidableEq

namespace Event

variable (fingerprint : RequestFingerprint) (event : Event)

/-- The answer of an `admit` for the fingerprint. -/
@[grind] def answer? : Option Admission :=
  match event.operation with
  | .admitted own _ _ _ answer => if own = fingerprint then some answer else none
  | _ => none

@[grind] def isNew : Bool :=
  event.answer? fingerprint = some .new

def isReplay : Bool :=
  match event.answer? fingerprint with
  | some (.replay _) => true
  | _ => false

@[grind =] theorem isReplay_iff : event.isReplay fingerprint = true ↔ ∃ reply, event.answer? fingerprint = some (.replay reply) := by
  unfold isReplay
  split <;> simp_all

@[grind] def drops : Bool :=
  match event.operation with
  | .admitted _ _ _ evicted _ => evicted = some fingerprint
  | .cleared => true
  | _ => false

@[grind] def storedReply (digest : Block 32) : Option Octets :=
  match event.operation with
  | .stored own ownDigest reply => if own = fingerprint ∧ ownDigest = digest then some reply else none
  | _ => none

end Event

inductive Step (requests : RequestCache) : Event → RequestCache → Prop
  | admitRequest (time : Nat) {victim : Option RequestFingerprint} (fingerprint : RequestFingerprint) (source : SocketAddr)
      (digest : Block 32) (starts : requests.Starts victim) :
      Step requests
        ⟨time, .admitted fingerprint source digest (requests.evicted fingerprint victim)
          (requests.admitRequest time victim fingerprint source digest).1⟩
        (requests.admitRequest time victim fingerprint source digest).2
  | storeReply (time : Nat) (fingerprint : RequestFingerprint) (digest : Block 32) (reply : Octets) :
      Step requests ⟨time, .stored fingerprint digest reply⟩ (requests.storeReply fingerprint digest reply)
  | cleanup (time : Nat) : Step requests ⟨time, .cleaned⟩ (requests.cleanup time)
  | clear (time : Nat) : Step requests ⟨time, .cleared⟩ requests.clear

def latest (events : List Event) : Nat :=
  (events.head?.map Event.time).getD 0

/-- Operations from an empty cache on, the last one first, by a clock that does
not go back. -/
inductive History (ttl maxEntries : Nat) : List Event → RequestCache → Prop
  | initial : History ttl maxEntries [] ⟨∅, ttl, maxEntries⟩
  | step {events : List Event} {requests after : RequestCache} {event : Event}
      (before : History ttl maxEntries events requests) (onward : latest events ≤ event.time)
      (step : Step requests event after) : History ttl maxEntries (event :: events) after

/-- What an operation makes of an entry, unless it admits the request anew. -/
structure Continues (ttl : Nat) (fingerprint : RequestFingerprint) (event : Event) (found left : Option CacheEntry) :
    Prop where
  notNew : event.isNew fingerprint = false
  stays : ∀ next, left = some next → ∃ entry, found = some entry ∧ event.drops fingerprint = false ∧
    next.insertedAt = entry.insertedAt ∧ next.source = entry.source ∧ next.requestDigest = entry.requestDigest ∧
    next.reply = (event.storedReply fingerprint entry.requestDigest).or entry.reply ∧
    next.replays.toNat = entry.replays.toNat + if event.isReplay fingerprint then 1 else 0
  goes : ∀ entry, found = some entry → left = none →
    event.drops fingerprint = true ∨ ttl < event.time - entry.insertedAt
  replay : ∀ reply, event.answer? fingerprint = some (.replay reply) → left.isSome ∧ ∃ entry evicted,
    found = some entry ∧ event.operation = .admitted fingerprint entry.source entry.requestDigest evicted (.replay reply) ∧
      entry.replays < maxReplaysPerRequest ∧ entry.reply = some reply

inductive Touches (ttl : Nat) (fingerprint : RequestFingerprint) (event : Event) :
    Option CacheEntry → Option CacheEntry → Prop
  | renewed {found : Option CacheEntry} {source : SocketAddr} {digest : Block 32} {evicted : Option RequestFingerprint}
      (isNew : event.operation = .admitted fingerprint source digest evicted .new)
      (absent : ∀ entry, found = some entry → ttl < event.time - entry.insertedAt) :
      Touches ttl fingerprint event found (some ⟨event.time, digest, source, none, 0⟩)
  | continued {found left : Option CacheEntry} (continues : Continues ttl fingerprint event found left) :
      Touches ttl fingerprint event found left

variable {victim : Option RequestFingerprint}

section Entries

variable {ttl maxEntries : Nat} {requests after : RequestCache} {event : Event} {events : List Event}

theorem mem_of_lookup {fingerprint : RequestFingerprint} {entry : CacheEntry}
    (found : requests.cache.lookup fingerprint = some entry) : fingerprint ∈ requests.cache :=
  AList.lookup_isSome.mp (by rw [found]; rfl)

theorem Admits.touches {time : Nat} {own : RequestFingerprint} {source : SocketAddr} {digest : Block 32}
    {answer : Admission} (admits : Admits requests time victim own source digest answer after)
    (fingerprint : RequestFingerprint) :
    Touches requests.ttl fingerprint ⟨time, .admitted own source digest (requests.evicted own victim) answer⟩
      (requests.cache.lookup fingerprint) (after.cache.lookup fingerprint) := by
  by_cases other : own = fingerprint
  · subst other
    cases admits with
    | new absent =>
      rw [AList.lookup_insert]
      exact .renewed rfl absent
    | @replay entry _ found _ _ below =>
      have stays := @evicted_of_mem _ _ victim (mem_of_lookup found)
      have limit : entry.replays.toNat < 8 := UInt8.lt_iff_toNat_lt.mp below
      have counted : (entry.replays + 1).toNat = entry.replays.toNat + 1 := by
        rw [UInt8.toNat_add, UInt8.toNat_one, Nat.mod_eq_of_lt (by omega)]
      rw [AList.lookup_insert, found]
      exact .continued (by constructor <;> grind)
    | refused present refuses =>
      have stays := @evicted_of_mem _ _ victim present
      rcases refuses with rfl | rfl <;> exact .continued (by constructor <;> grind)
  · -- an entry for another request is touched only where it makes room
    have seen : after.cache.lookup fingerprint =
        if requests.evicted own victim = some fingerprint then none else requests.cache.lookup fingerprint := by
      cases admits with
      | new => rw [AList.lookup_insert_ne (Ne.symm other), lookup_makeRoom]
      | replay found => rw [AList.lookup_insert_ne (Ne.symm other), evicted_of_mem (mem_of_lookup found), if_neg nofun]
      | refused present => rw [evicted_of_mem present, if_neg nofun]
    rw [seen]
    exact .continued (by constructor <;> grind)

theorem storeReply_touches (time : Nat) (own : RequestFingerprint) (digest : Block 32) (reply : Octets)
    (fingerprint : RequestFingerprint) :
    Touches ttl fingerprint ⟨time, .stored own digest reply⟩ (requests.cache.lookup fingerprint)
      ((requests.storeReply own digest reply).cache.lookup fingerprint) := by
  unfold storeReply
  cases found : requests.cache.lookup own with
  | none => exact .continued (by constructor <;> grind)
  | some entry =>
    by_cases sameDigest : entry.requestDigest = digest
    · simp only [if_pos sameDigest]
      by_cases same : fingerprint = own
      · rw [same, AList.lookup_insert, found]
        exact .continued (by constructor <;> grind)
      · rw [AList.lookup_insert_ne same]
        exact .continued (by constructor <;> grind)
    · simp only [if_neg sameDigest]
      exact .continued (by constructor <;> grind)

theorem Step.touches (step : Step requests event after) (fingerprint : RequestFingerprint) :
    Touches requests.ttl fingerprint event (requests.cache.lookup fingerprint) (after.cache.lookup fingerprint) := by
  cases step with
  | admitRequest time own source digest starts => exact (admitRequest_admits requests _ _ _ _ _).touches fingerprint
  | storeReply time own digest reply => exact storeReply_touches time own digest reply fingerprint
  | cleanup time =>
    rw [lookup_cleanup]
    cases requests.cache.lookup fingerprint <;> exact .continued (by constructor <;> grind)
  | clear time => exact .continued ⟨rfl, nofun, fun _ _ _ => .inl rfl, nofun⟩

def sinceNew (fingerprint : RequestFingerprint) (events : List Event) : List Event :=
  events.takeWhile fun event => !event.isNew fingerprint

def lastStored (fingerprint : RequestFingerprint) (digest : Block 32) (events : List Event) : Option Octets :=
  events.findSome? fun event => event.storedReply fingerprint digest

def replaysOf (fingerprint : RequestFingerprint) (events : List Event) : Nat :=
  events.countP fun event => event.isReplay fingerprint

structure Records (fingerprint : RequestFingerprint) (events : List Event) (entry : CacheEntry) : Prop where
  admitted : ∃ evicted first, events = sinceNew fingerprint events ++
    ⟨entry.insertedAt, .admitted fingerprint entry.source entry.requestDigest evicted .new⟩ :: first
  kept : ∀ event ∈ sinceNew fingerprint events, event.drops fingerprint = false
  reply : lastStored fingerprint entry.requestDigest (sinceNew fingerprint events) = entry.reply
  replays : replaysOf fingerprint (sinceNew fingerprint events) = entry.replays.toNat

structure Traced (ttl : Nat) (fingerprint : RequestFingerprint) (events : List Event) (found : Option CacheEntry) :
    Prop where
  records : ∀ entry, found = some entry → Records fingerprint events entry
  replays : replaysOf fingerprint (sinceNew fingerprint events) ≤ maxReplaysPerRequest.toNat
  renewal : ∀ between admission first, events = between ++ admission :: first → admission.isNew fingerprint = true →
    (∃ event ∈ between, event.drops fingerprint = true) ∨ ttl < latest events - admission.time ∨
      ∃ entry, found = some entry ∧ admission.time ≤ entry.insertedAt

variable {fingerprint : RequestFingerprint} {entry : CacheEntry} {found left : Option CacheEntry}

theorem sinceNew_of_notNew (notNew : event.isNew fingerprint = false) :
    sinceNew fingerprint (event :: events) = event :: sinceNew fingerprint events := by
  simp [sinceNew, notNew]

theorem Continues.records (continues : Continues ttl fingerprint event found left)
    (records : ∀ entry, found = some entry → Records fingerprint events entry) {next : CacheEntry}
    (same : left = some next) : Records fingerprint (event :: events) next := by
  obtain ⟨entry, before, kept, sameTime, sameSource, sameDigest, reply, replays⟩ := continues.stays next same
  have records := records entry before
  obtain ⟨evicted, first, split⟩ := records.admitted
  have since := @sinceNew_of_notNew _ events _ continues.notNew
  refine ⟨⟨evicted, first, ?_⟩, ?_, ?_, ?_⟩
  · rw [since, List.cons_append, sameTime, sameSource, sameDigest, ← split]
  · rw [since]
    exact List.forall_mem_cons.mpr ⟨kept, records.kept⟩
  · rw [since, lastStored, List.findSome?_cons, sameDigest, reply, ← records.reply]
    cases event.storedReply fingerprint entry.requestDigest <;> rfl
  · rw [since, replaysOf, List.countP_cons, replays, ← records.replays]
    rfl

theorem Traced.replays_cons (traced : Traced ttl fingerprint events found)
    (continues : Continues ttl fingerprint event found left) :
    replaysOf fingerprint (sinceNew fingerprint (event :: events)) ≤ maxReplaysPerRequest.toNat := by
  rw [sinceNew_of_notNew continues.notNew, replaysOf, List.countP_cons]
  by_cases isReplay : event.isReplay fingerprint = true
  · obtain ⟨reply, answered⟩ := (event.isReplay_iff fingerprint).mp isReplay
    obtain ⟨_, entry, _, before, _, below, _⟩ := continues.replay reply answered
    rw [if_pos isReplay, ← replaysOf, (traced.records entry before).replays]
    exact UInt8.lt_iff_toNat_lt.mp below
  · rw [if_neg isReplay]
    exact traced.replays

theorem Traced.renewal_cons (traced : Traced ttl fingerprint events found) (onward : latest events ≤ event.time)
    (renewed : event.isNew fingerprint = true → ∃ entry, left = some entry ∧ event.time ≤ entry.insertedAt)
    (kept : ∀ entry, found = some entry → event.drops fingerprint = true ∨ ttl < event.time - entry.insertedAt ∨
      ∃ next, left = some next ∧ next.insertedAt = entry.insertedAt)
    (between : List Event) (admission : Event) (first : List Event)
    (split : event :: events = between ++ admission :: first) (isNew : admission.isNew fingerprint = true) :
    (∃ other ∈ between, other.drops fingerprint = true) ∨ ttl < latest (event :: events) - admission.time ∨
      ∃ entry, left = some entry ∧ admission.time ≤ entry.insertedAt := by
  cases between with
  | nil =>
    cases split
    exact .inr (.inr (renewed isNew))
  | cons head rest =>
    obtain ⟨rfl, tail⟩ := List.cons.inj split
    have now : latest (event :: events) = event.time := rfl
    rw [now]
    rcases traced.renewal rest admission first tail isNew with ⟨other, member, drops⟩ | old | ⟨entry, same, later⟩
    · exact .inl ⟨other, List.mem_cons_of_mem _ member, drops⟩
    · exact .inr (.inl (by omega))
    · grind

theorem Traced.step (traced : Traced ttl fingerprint events found) (onward : latest events ≤ event.time)
    (touches : Touches ttl fingerprint event found left) : Traced ttl fingerprint (event :: events) left := by
  cases touches with
  | @renewed source digest evicted performed absent =>
    have none : sinceNew fingerprint (event :: events) = [] := by
      simp [sinceNew, Event.isNew, Event.answer?, performed]
    refine ⟨?_, by simp [none, replaysOf], traced.renewal_cons onward (fun _ => ⟨_, rfl, le_rfl⟩)
      fun entry same => .inr (.inl (absent entry same))⟩
    intro entry same
    cases same
    refine ⟨⟨evicted, events, ?_⟩, by simp [none], by simp [none, lastStored], by simp [none, replaysOf]⟩
    rw [none, ← performed]
    rfl
  | continued continues =>
    refine ⟨fun _ => continues.records traced.records, traced.replays_cons continues,
      traced.renewal_cons onward (by simp [continues.notNew]) fun entry same => ?_⟩
    cases gone : left with
    | none => exact (continues.goes entry same gone).imp id .inl
    | some next =>
      obtain ⟨_, before, _, sameTime, _⟩ := continues.stays next gone
      cases same.symm.trans before
      exact .inr (.inr ⟨next, rfl, sameTime⟩)

end Entries

section Histories

variable {ttl maxEntries : Nat} {requests after : RequestCache} {event : Event} {events : List Event}
  {fingerprint : RequestFingerprint}

theorem length_makeRoom (absent : fingerprint ∉ requests.cache) (starts : requests.Starts victim)
    (below : requests.cache.entries.length ≤ max requests.maxEntries 1) :
    (requests.makeRoom fingerprint victim).cache.entries.length + 1 ≤ max requests.maxEntries 1 := by
  unfold makeRoom
  by_cases full : requests.maxEntries ≤ requests.cache.entries.length
  · rw [if_pos ⟨full, absent⟩]
    cases victim with
    | none =>
      have empty : requests.cache = ∅ := starts
      simp [empty]
    | some key =>
      obtain ⟨entry, found⟩ := Option.isSome_iff_exists.mp (AList.lookup_isSome.mpr starts)
      have shorter := Maps.length_erase found
      simp only
      omega
  · rw [if_neg fun both => full both.1]
    omega

theorem Step.kept (step : Step requests event after) :
    after.ttl = requests.ttl ∧ after.maxEntries = requests.maxEntries ∧
      (requests.cache.entries.length ≤ max requests.maxEntries 1 →
        after.cache.entries.length ≤ max requests.maxEntries 1) := by
  cases step with
  | @admitRequest time victim own source digest starts =>
    have admits := admitRequest_admits requests time victim own source digest
    generalize requests.admitRequest time victim own source digest = result at admits ⊢
    obtain ⟨answer, left⟩ := result
    cases admits with
    | new =>
      refine ⟨rfl, rfl, fun below => ?_⟩
      by_cases present : own ∈ requests.cache
      · rw [makeRoom_of_mem present]
        exact (Maps.length_insert_of_mem present _).le.trans below
      · have absent : own ∉ (requests.makeRoom own victim).cache := by
          rw [← AList.lookup_eq_none, lookup_makeRoom, AList.lookup_eq_none.mpr present, ite_self]
        exact (Maps.length_insert_of_notMem absent _).le.trans (length_makeRoom present starts below)
    | replay found => exact ⟨rfl, rfl, (Maps.length_insert_of_mem (mem_of_lookup found) _).le.trans⟩
    | refused => exact ⟨rfl, rfl, id⟩
  | storeReply time own digest reply =>
    unfold RequestCache.storeReply
    split
    next => exact ⟨rfl, rfl, id⟩
    next found =>
      split
      next => exact ⟨rfl, rfl, (Maps.length_insert_of_mem (mem_of_lookup found) _).le.trans⟩
      next => exact ⟨rfl, rfl, id⟩
  | cleanup time =>
    have purged := requests.cleanup_purged time
    exact ⟨purged.ttl, purged.maxEntries, purged.fewer.trans⟩
  | clear time => exact ⟨rfl, rfl, fun _ => Nat.zero_le _⟩

theorem History.kept (history : History ttl maxEntries events requests) :
    requests.ttl = ttl ∧ requests.maxEntries = maxEntries ∧ requests.cache.entries.length ≤ max maxEntries 1 := by
  induction history with
  | initial => exact ⟨rfl, rfl, Nat.zero_le _⟩
  | step _ _ step ih =>
    obtain ⟨sameTtl, sameMax, limited⟩ := step.kept
    rw [ih.1, ih.2.1] at *
    exact ⟨sameTtl, sameMax, limited ih.2.2⟩

theorem History.traced (history : History ttl maxEntries events requests) (fingerprint : RequestFingerprint) :
    Traced ttl fingerprint events (requests.cache.lookup fingerprint) := by
  induction history with
  | initial => exact ⟨nofun, Nat.zero_le _, fun between _ _ split => by cases between <;> cases split⟩
  | step before onward step ih =>
    have touches := step.touches fingerprint
    rw [before.kept.1] at touches
    exact ih.step onward touches

theorem History.earlier {later : List Event} (history : History ttl maxEntries (later ++ events) requests) :
    ∃ before, History ttl maxEntries events before := by
  induction later generalizing requests with
  | nil => exact ⟨requests, history⟩
  | cons event rest ih =>
    cases history with
    | step before onward step => exact ih before

/-- The laws of duplicate detection. -/
structure Lawful (ttl maxEntries : Nat) (events : List Event) (requests : RequestCache) : Prop where
  /-- A replay is the reply last stored for an admission of the same request
  from the same source, whose entry has stayed. -/
  replay : ∀ later time fingerprint source digest evicted reply earlier,
    events = later ++ ⟨time, .admitted fingerprint source digest evicted (.replay reply)⟩ :: earlier →
      ∃ since admittedAt evictedThen first,
        earlier = since ++ ⟨admittedAt, .admitted fingerprint source digest evictedThen .new⟩ :: first ∧
        (∀ event ∈ since, event.isNew fingerprint = false ∧ event.drops fingerprint = false) ∧
        lastStored fingerprint digest since = some reply
  /-- An admission is replayed at most eight times before the next. -/
  replays : ∀ later since admission first fingerprint, events = later ++ (since ++ admission :: first) →
    admission.isNew fingerprint = true → (∀ event ∈ since, event.isNew fingerprint = false) →
      replaysOf fingerprint since ≤ 8
  /-- A fingerprint is new again only after the TTL, or when its entry has gone. -/
  renewal : ∀ later second between first earlier fingerprint,
    events = later ++ second :: (between ++ first :: earlier) → second.isNew fingerprint = true →
      first.isNew fingerprint = true →
        ttl < second.time - first.time ∨ ∃ event ∈ between, event.drops fingerprint = true
  /-- A refused request leaves everything as it is. -/
  refusal : ∀ event after fingerprint, Step requests event after →
    event.answer? fingerprint = some .conflict ∨ event.answer? fingerprint = some .inProgress → after = requests
  size : requests.cache.entries.length ≤ max maxEntries 1

theorem Step.replayed {time : Nat} {source : SocketAddr} {digest : Block 32} {evicted : Option RequestFingerprint}
    {reply : Octets} (step : Step requests ⟨time, .admitted fingerprint source digest evicted (.replay reply)⟩ after) :
    ∃ entry, requests.cache.lookup fingerprint = some entry ∧ entry.source = source ∧ entry.requestDigest = digest ∧
      entry.reply = some reply := by
  have touches := step.touches fingerprint
  generalize after.cache.lookup fingerprint = left at touches
  cases touches with
  | renewed performed => cases performed
  | continued continues =>
    obtain ⟨_, entry, _, found, performed, _, replied⟩ := continues.replay reply (by simp [Event.answer?])
    cases performed
    exact ⟨entry, found, rfl, rfl, replied⟩

theorem Step.renewed (step : Step requests event after) (isNew : event.isNew fingerprint = true) {entry : CacheEntry}
    (found : requests.cache.lookup fingerprint = some entry) : requests.ttl < event.time - entry.insertedAt := by
  have touches := step.touches fingerprint
  generalize after.cache.lookup fingerprint = left at touches
  cases touches with
  | renewed _ absent => exact absent entry found
  | continued continues =>
    rw [continues.notNew] at isNew
    cases isNew

theorem Step.refused (step : Step requests event after)
    (refused : event.answer? fingerprint = some .conflict ∨ event.answer? fingerprint = some .inProgress) :
    after = requests := by
  cases step with
  | @admitRequest time victim own source digest starts =>
    have admits := admitRequest_admits requests time victim own source digest
    generalize requests.admitRequest time victim own source digest = result at admits refused ⊢
    obtain ⟨answer, left⟩ := result
    cases admits with
    | new | replay => simp [Event.answer?] at refused
    | refused => rfl
  | storeReply | cleanup | clear => simp [Event.answer?] at refused

/-- Every history of the duplicate cache keeps its laws. -/
theorem history_lawful (history : History ttl maxEntries events requests) : Lawful ttl maxEntries events requests where
  replay later time fingerprint source digest evicted reply earlier split := by
    subst split
    obtain ⟨before, own⟩ := history.earlier
    cases own with
    | step earlierHistory onward step =>
      obtain ⟨entry, found, rfl, rfl, replied⟩ := step.replayed
      have records := (earlierHistory.traced fingerprint).records entry found
      obtain ⟨evictedThen, first, split⟩ := records.admitted
      refine ⟨sinceNew fingerprint earlier, entry.insertedAt, evictedThen, first, split, ?_, records.reply.trans replied⟩
      intro event member
      have notNew := List.mem_takeWhile_imp member
      exact ⟨by simpa using notNew, records.kept event member⟩
  replays later since admission first fingerprint split isNew notNew := by
    subst split
    obtain ⟨before, own⟩ := history.earlier
    have limit := (own.traced fingerprint).replays
    have all : sinceNew fingerprint (since ++ admission :: first) = since := by
      rw [sinceNew, List.takeWhile_append_of_pos (by simpa using notNew)]
      simp [isNew]
    rwa [all] at limit
  renewal later second between first earlier fingerprint split secondNew firstNew := by
    subst split
    obtain ⟨before, own⟩ := history.earlier
    cases own with
    | @step _ requests _ _ earlierHistory onward step =>
      rcases (earlierHistory.traced fingerprint).renewal between first earlier rfl firstNew with
        dropped | old | ⟨entry, found, later⟩
      · exact .inr dropped
      · exact .inl (by omega)
      · have expired := step.renewed secondNew found
        rw [earlierHistory.kept.1] at expired
        exact .inl (by omega)
  refusal event after fingerprint step refused := step.refused refused
  size := history.kept.2.2

end Histories

/-- A request that is answered, and its retransmission. -/
def sampleEvents : List Event :=
  [⟨5, .admitted (sampleFingerprint 7) samplePeer (.zero 32) none (.replay [2, 7])⟩,
    ⟨1, .stored (sampleFingerprint 7) (.zero 32) [2, 7]⟩,
    ⟨0, .admitted (sampleFingerprint 7) samplePeer (.zero 32) none .new⟩]

theorem sampleEvents_lawful : ∃ requests, History 60 2 sampleEvents requests ∧ Lawful 60 2 sampleEvents requests := by
  have admitted : History 60 2 [⟨0, .admitted (sampleFingerprint 7) samplePeer (.zero 32) none .new⟩] _ :=
    .step .initial (Nat.le_refl 0) (@Step.admitRequest _ 0 none (sampleFingerprint 7) samplePeer (.zero 32) rfl)
  have answered : History 60 2 (⟨1, .stored (sampleFingerprint 7) (.zero 32) [2, 7]⟩ :: _) _ :=
    .step admitted (Nat.zero_le 1) (.storeReply 1 (sampleFingerprint 7) (.zero 32) [2, 7])
  have replayed : History 60 2 sampleEvents _ := .step answered (Nat.le_add_left 1 4)
    (@Step.admitRequest _ 5 (some (sampleFingerprint 7)) (sampleFingerprint 7) samplePeer (.zero 32) List.mem_cons_self)
  exact ⟨_, replayed, history_lawful replayed⟩

end UsgRadius.RequestCache
