import UsgRadius.Proxy.Entry
import Mathlib.Algebra.Order.Archimedean.Basic
import Mathlib.Data.List.AList
import Mathlib.Tactic.Linarith

namespace UsgRadius.RateLimit

/-! Token buckets, one for each client and one for all. Tokens and times, in
seconds, are exact numbers. -/

structure Bucket where
  tokens : Rat
  capacity : Rat
  refillRate : Rat
  lastRefill : Rat

def Bucket.new (capacity refillRate now : Rat) : Bucket :=
  ⟨capacity, capacity, refillRate, now⟩

def Bucket.tryConsume (now : Rat) (bucket : Bucket) : Bool × Bucket :=
  let tokens := min (bucket.tokens + (now - bucket.lastRefill) * bucket.refillRate) bucket.capacity
  if 1 ≤ tokens then (true, { bucket with tokens := tokens - 1, lastRefill := now })
  else (false, { bucket with tokens, lastRefill := now })

namespace Bucket

variable {bucket : Bucket} {now time tokens : Rat}

/-- The tokens there are at a time. -/
def level (now : Rat) (bucket : Bucket) : Rat :=
  min (bucket.tokens + (now - bucket.lastRefill) * bucket.refillRate) bucket.capacity

/-- The tokens there are at a time are counted. -/
def refill (now tokens : Rat) (bucket : Bucket) : Bucket :=
  { bucket with tokens, lastRefill := now }

theorem tryConsume_of_le (enough : 1 ≤ bucket.level now) :
    bucket.tryConsume now = (true, bucket.refill now (bucket.level now - 1)) :=
  if_pos enough

theorem tryConsume_of_lt (short : bucket.level now < 1) :
    bucket.tryConsume now = (false, bucket.refill now (bucket.level now)) :=
  if_neg short.not_ge

theorem tryConsume_sizes : (bucket.tryConsume now).2.capacity = bucket.capacity ∧
    (bucket.tryConsume now).2.refillRate = bucket.refillRate := by
  unfold tryConsume
  dsimp only
  split <;> exact ⟨rfl, rfl⟩

theorem level_le_capacity : bucket.level now ≤ bucket.capacity :=
  min_le_right _ _

theorem level_refill : (bucket.refill now tokens).level time =
    min (tokens + (time - now) * bucket.refillRate) bucket.capacity :=
  rfl

theorem level_refill_self (within : tokens ≤ bucket.capacity) : (bucket.refill now tokens).level now = tokens := by
  simp [level_refill, within]

theorem level_refill_le (fewer : tokens ≤ bucket.level now) :
    (bucket.refill now tokens).level time ≤ bucket.level time := by
  have counted := fewer.trans (min_le_left _ _)
  exact min_le_min (by simp only [refill]; linarith) le_rfl

theorem level_new (capacity rate : Rat) : (Bucket.new capacity rate now).level now = capacity := by
  simp [level, Bucket.new]

end Bucket

structure RateLimitConfig where
  perClientRps : Nat
  perClientBurst : Nat
  globalRps : Nat
  globalBurst : Nat

abbrev Buckets : Type := AList fun _ : IpAddr => Bucket

structure RateLimiter where
  config : RateLimitConfig
  clientBuckets : Buckets
  globalBucket : Option Bucket

structure Request where
  client : IpAddr
  now : Rat

namespace RateLimiter

variable {config : RateLimitConfig} {buckets : Buckets} {global bucket : Bucket} {request : Request}
  {limiter : RateLimiter} {now time : Rat} {client : IpAddr}

def new (config : RateLimitConfig) (now : Rat) : RateLimiter where
  config
  clientBuckets := ∅
  globalBucket := if 0 < config.globalRps then some (.new config.globalBurst config.globalRps now) else none

theorem new_shared (start : Rat) (shared : 0 < config.globalRps) :
    new config start = ⟨config, ∅, some (.new config.globalBurst config.globalRps start)⟩ := by
  simp [new, shared]

/-- A client that was not seen before has a full bucket. -/
def bucketFor (request : Request) (limiter : RateLimiter) : Bucket :=
  (limiter.clientBuckets.lookup request.client).getD
    (.new limiter.config.perClientBurst limiter.config.perClientRps request.now)

def consumeClient (request : Request) (limiter : RateLimiter) : Bool × Bucket :=
  (limiter.bucketFor request).tryConsume request.now

def checkClient (request : Request) (limiter : RateLimiter) : Bool × RateLimiter :=
  if 0 < limiter.config.perClientRps then
    let (allowed, bucket) := limiter.consumeClient request
    (allowed, { limiter with clientBuckets := limiter.clientBuckets.insert request.client bucket })
  else (true, limiter)

def checkRateLimit (request : Request) (limiter : RateLimiter) : Bool × RateLimiter :=
  match limiter.globalBucket with
  | none => limiter.checkClient request
  | some global =>
    let (allowed, global) := global.tryConsume request.now
    let limiter := { limiter with globalBucket := some global }
    if allowed then limiter.checkClient request else (false, limiter)

/-- The answers to the requests of one client. -/
def answersTo (client : IpAddr) : RateLimiter → List Request → List Bool
  | _, [] => []
  | limiter, request :: rest =>
    let (allowed, after) := limiter.checkRateLimit request
    if request.client = client then allowed :: answersTo client after rest else answersTo client after rest

/-- The request passes the limit for all and is denied by its client's own. -/
def DeniesOwn (request : Request) (limiter : RateLimiter) : Prop :=
  0 < limiter.config.perClientRps ∧ (limiter.consumeClient request).1 = false ∧
    ∀ global ∈ limiter.globalBucket, (global.tryConsume request.now).1 = true

/-- Every request marked as additional is denied by its client's own limit. -/
def DeniesAdditional : RateLimiter → List (Request × Bool) → Prop
  | _, [] => True
  | limiter, (request, additional) :: rest =>
    (additional = true → limiter.DeniesOwn request) ∧ DeniesAdditional (limiter.checkRateLimit request).2 rest

/-- The clock does not go back. -/
def InOrder (now : Rat) (requests : List Request) : Prop :=
  List.IsChain (· ≤ ·) (now :: requests.map Request.now)

section Unmarked

variable {requests : List (Request × Bool)}

/-- The bucket of the client is stored with so many tokens. -/
def keep (request : Request) (tokens : Rat) (limiter : RateLimiter) : RateLimiter :=
  let bucket := (limiter.bucketFor request).refill request.now tokens
  { limiter with clientBuckets := limiter.clientBuckets.insert request.client bucket }

theorem checkRateLimit_short (request : Request) (short : global.level request.now < 1) :
    checkRateLimit request ⟨config, buckets, some global⟩ =
      (false, ⟨config, buckets, some (global.refill request.now (global.level request.now))⟩) := by
  simp only [checkRateLimit, Bucket.tryConsume_of_lt short, Bool.false_eq_true, if_false]

theorem checkRateLimit_enough (request : Request) (enough : 1 ≤ global.level request.now) :
    checkRateLimit request ⟨config, buckets, some global⟩ =
      checkClient request ⟨config, buckets, some (global.refill request.now (global.level request.now - 1))⟩ := by
  simp only [checkRateLimit, Bucket.tryConsume_of_le enough, if_true]

theorem checkClient_of_le (request : Request) (limited : 0 < limiter.config.perClientRps)
    (enough : 1 ≤ (limiter.bucketFor request).level request.now) :
    limiter.checkClient request = (true, limiter.keep request ((limiter.bucketFor request).level request.now - 1)) := by
  rw [checkClient, if_pos limited, consumeClient, Bucket.tryConsume_of_le enough, keep]

/-- No bucket of a client has less than the bucket for all, now or later. -/
structure Covered (config : RateLimitConfig) (now : Rat) (buckets : Buckets)
    (global : Bucket) : Prop where
  capacity : global.capacity = config.globalBurst
  refillRate : global.refillRate = config.globalRps
  clients : ∀ client bucket, buckets.lookup client = some bucket →
    bucket.capacity = config.perClientBurst ∧ bucket.refillRate = config.perClientRps ∧
      ∀ time, now ≤ time → global.level time ≤ bucket.level time

theorem Covered.bucketFor (covered : Covered config now buckets global)
    (wide : config.globalBurst ≤ config.perClientBurst) (later : now ≤ request.now) (other : Option Bucket) :
    (RateLimiter.bucketFor request ⟨config, buckets, other⟩).capacity = config.perClientBurst ∧
      (RateLimiter.bucketFor request ⟨config, buckets, other⟩).refillRate = config.perClientRps ∧
      global.level request.now ≤ (RateLimiter.bucketFor request ⟨config, buckets, other⟩).level request.now := by
  unfold RateLimiter.bucketFor
  cases found : buckets.lookup request.client with
  | none =>
    refine ⟨rfl, rfl, ?_⟩
    rw [Option.getD_none, Bucket.level_new]
    exact Bucket.level_le_capacity.trans (covered.capacity ▸ Nat.cast_le.mpr wide)
  | some bucket =>
    obtain ⟨capacity, refillRate, more⟩ := covered.clients _ bucket found
    exact ⟨capacity, refillRate, more _ later⟩

theorem Covered.lower {tokens time : Rat} (covered : Covered config now buckets global) (later : now ≤ time)
    (fewer : tokens ≤ global.level time) : Covered config time buckets (global.refill time tokens) := by
  refine ⟨covered.capacity, covered.refillRate, fun client bucket found => ?_⟩
  obtain ⟨capacity, refillRate, more⟩ := covered.clients client bucket found
  exact ⟨capacity, refillRate, fun after follows =>
    (Bucket.level_refill_le fewer).trans (more after (later.trans follows))⟩

theorem Covered.step (covered : Covered config now buckets global)
    (wide : config.globalBurst ≤ config.perClientBurst) (fast : config.globalRps ≤ config.perClientRps)
    (limited : 0 < config.perClientRps) (later : now ≤ request.now) :
    ¬ DeniesOwn request ⟨config, buckets, some global⟩ ∧ ∃ buckets' global',
      (checkRateLimit request ⟨config, buckets, some global⟩).2 = ⟨config, buckets', some global'⟩ ∧
      Covered config request.now buckets' global' := by
  rcases lt_or_ge (global.level request.now) 1 with short | enough
  · refine ⟨fun denies => ?_, _, _, congrArg Prod.snd (checkRateLimit_short request short), covered.lower later le_rfl⟩
    have passes := denies.2.2 global rfl
    rw [Bucket.tryConsume_of_lt short] at passes
    cases passes
  · have own := covered.bucketFor wide later
    have passes := enough.trans (own none).2.2
    refine ⟨fun denies => ?_, _, _, congrArg Prod.snd ((checkRateLimit_enough request enough).trans
      (checkClient_of_le request limited passes)), covered.capacity, covered.refillRate, fun client other found => ?_⟩
    · have refused := denies.2.1
      rw [consumeClient, Bucket.tryConsume_of_le (enough.trans (own _).2.2)] at refused
      cases refused
    · by_cases same : client = request.client
      · subst same
        rw [AList.lookup_insert] at found
        cases found
        refine ⟨(own _).1, (own _).2.1, fun time after => ?_⟩
        rw [Bucket.level_refill, Bucket.level_refill, covered.capacity, covered.refillRate, (own _).1, (own _).2.1]
        refine min_le_min (add_le_add (sub_le_sub_right (own _).2.2 1) ?_) (Nat.cast_le.mpr wide)
        exact mul_le_mul_of_nonneg_left (Nat.cast_le.mpr fast) (sub_nonneg.mpr after)
      · rw [AList.lookup_insert_ne same] at found
        exact (covered.lower later (sub_le_self _ one_pos.le)).clients client other found

end Unmarked

section Starving

variable {left right : RateLimiter}

def sampleClient (octet : UInt8) : IpAddr :=
  .v4 (.fill 4 octet)

/-- From here on, client 2 gets other answers with the additional requests of
client 1 than it gets without them. -/
def Starves (now : Rat) (left right : RateLimiter) : Prop :=
  ∃ requests : List (Request × Bool), InOrder now (requests.map Prod.fst) ∧ left.DeniesAdditional requests ∧
    (∀ request ∈ requests, request.2 = true → request.1.client ≠ sampleClient 2) ∧
    left.answersTo (sampleClient 2) (requests.map Prod.fst) ≠
      right.answersTo (sampleClient 2) ((requests.filter (!·.2)).map Prod.fst)

theorem Starves.asked (later : now ≤ time)
    (rest : Starves time (left.checkRateLimit ⟨sampleClient 1, time⟩).2
      (right.checkRateLimit ⟨sampleClient 1, time⟩).2) : Starves now left right := by
  obtain ⟨requests, ordered, denies, others, differ⟩ := rest
  refine ⟨(⟨sampleClient 1, time⟩, false) :: requests, List.isChain_cons_cons.mpr ⟨later, ordered⟩, ⟨nofun, denies⟩,
    List.forall_mem_cons.mpr ⟨nofun, others⟩, ?_⟩
  have different : sampleClient 1 ≠ sampleClient 2 := by decide
  simpa [answersTo, different] using differ

variable (limited : 0 < config.perClientRps) (holds : 1 ≤ config.perClientBurst)
include limited holds

end Starving

section Windows

variable {first last : Rat}

/-- Each request with its answer. -/
def decided : RateLimiter → List Request → List (Request × Bool)
  | _, [] => []
  | limiter, request :: rest =>
    (request, (limiter.checkRateLimit request).1) :: decided (limiter.checkRateLimit request).2 rest

def admittedIn (first last : Rat) (decision : Request × Bool) : Bool :=
  decision.2 && decide (first ≤ decision.1.now ∧ decision.1.now ≤ last)

/-- What a count can still come to, whatever the requests. -/
theorem countP_le {counts : Request × Bool → Bool} (potential : Rat → RateLimiter → Rat)
    (Inv : Rat → RateLimiter → Prop)
    (nonneg : ∀ now limiter, Inv now limiter → 0 ≤ potential now limiter)
    (step : ∀ now limiter request, Inv now limiter → now ≤ request.now →
      Inv request.now (limiter.checkRateLimit request).2 ∧
        (if counts (request, (limiter.checkRateLimit request).1) then 1 else 0) +
          potential request.now (limiter.checkRateLimit request).2 ≤ potential now limiter)
    {requests : List Request} (holds : Inv now limiter) (ordered : InOrder now requests) :
    ((decided limiter requests).countP counts : Rat) ≤ potential now limiter := by
  induction requests generalizing now limiter with
  | nil => simpa [decided] using nonneg now limiter holds
  | cons request rest ih =>
    obtain ⟨later, ordered⟩ := List.isChain_cons_cons.mp ordered
    obtain ⟨next, falls⟩ := step now limiter request holds later
    have rest := ih next ordered
    rw [decided, List.countP_cons, Nat.cast_add, Nat.cast_ite, Nat.cast_one, Nat.cast_zero]
    linarith

structure Valid (now : Rat) (bucket : Bucket) : Prop where
  tokens : 0 ≤ bucket.tokens
  capacity : 0 ≤ bucket.capacity
  refillRate : 0 ≤ bucket.refillRate
  lastRefill : bucket.lastRefill ≤ now

theorem Valid.level_nonneg (valid : Valid now bucket) (later : now ≤ time) : 0 ≤ bucket.level time :=
  le_min (add_nonneg valid.tokens (mul_nonneg (sub_nonneg.mpr (valid.lastRefill.trans later)) valid.refillRate))
    valid.capacity

theorem Valid.level_le (valid : Valid now bucket) (later : time ≤ last) :
    bucket.level last ≤ bucket.level time + (last - time) * bucket.refillRate := by
  rw [Bucket.level, Bucket.level, ← min_add_add_right]
  refine min_le_min (le_of_eq (by ring)) (le_add_of_nonneg_right ?_)
  exact mul_nonneg (sub_nonneg.mpr later) valid.refillRate

/-- The tokens that there are, or will be, to admit requests in the window. -/
def available (first last now : Rat) (bucket : Bucket) : Rat :=
  if now ≤ last then bucket.level (max now first) + (last - max now first) * bucket.refillRate else 0

variable (window : first ≤ last)
include window

theorem Valid.available_nonneg (valid : Valid now bucket) : 0 ≤ available first last now bucket := by
  unfold available
  split
  · rename_i inside
    exact add_nonneg (valid.level_nonneg (le_max_left _ _))
      (mul_nonneg (sub_nonneg.mpr (max_le inside window)) valid.refillRate)
  · exact le_rfl

theorem Valid.available_le_full (valid : Valid now bucket) :
    available first last now bucket ≤ bucket.capacity + (last - first) * bucket.refillRate := by
  unfold available
  split
  · refine add_le_add Bucket.level_le_capacity (mul_le_mul_of_nonneg_right ?_ valid.refillRate)
    exact sub_le_sub_left (le_max_right _ _) _
  · exact add_nonneg valid.capacity (mul_nonneg (sub_nonneg.mpr window) valid.refillRate)

theorem Valid.available_later (valid : Valid now bucket) (later : now ≤ time) :
    available first last time bucket ≤ available first last now bucket := by
  by_cases inside : time ≤ last
  · rw [available, available, if_pos inside, if_pos (later.trans inside)]
    have grown := valid.level_le (max_le_max_right first later)
    linarith
  · rw [available, if_neg inside]
    exact valid.available_nonneg window

/-- A request takes from what there is only as it is admitted. -/
theorem Valid.consume (valid : Valid now bucket) (later : now ≤ time) :
    Valid time (bucket.tryConsume time).2 ∧
      (if (bucket.tryConsume time).1 = true ∧ first ≤ time ∧ time ≤ last then 1 else 0) +
        available first last time (bucket.tryConsume time).2 ≤ available first last now bucket := by
  have present := valid.level_nonneg later
  obtain ⟨taken, consumed, fewer, counted⟩ : ∃ taken,
      (bucket.tryConsume time).2 = bucket.refill time (bucket.level time - taken) ∧
      (0 ≤ taken ∧ taken ≤ bucket.level time) ∧ taken = if (bucket.tryConsume time).1 = true then 1 else 0 := by
    rcases lt_or_ge (bucket.level time) 1 with short | enough
    · rw [Bucket.tryConsume_of_lt short]
      exact ⟨0, by rw [sub_zero], ⟨le_rfl, present⟩, rfl⟩
    · rw [Bucket.tryConsume_of_le enough]
      exact ⟨1, rfl, ⟨one_pos.le, enough⟩, rfl⟩
  have less : bucket.level time - taken ≤ bucket.level time := sub_le_self _ fewer.1
  have fell : available first last time bucket ≤ available first last now bucket := valid.available_later window later
  refine ⟨?_, ?_⟩
  · rw [consumed]
    exact ⟨sub_nonneg.mpr fewer.2, valid.capacity, valid.refillRate, le_rfl⟩
  · by_cases inside : time ≤ last
    · by_cases entered : first ≤ time
      · have level := @Bucket.level_refill_self bucket time _ (less.trans Bucket.level_le_capacity)
        rw [available, if_pos inside, max_eq_left entered] at fell
        simp only [entered, inside, and_true]
        rw [← counted, consumed, available, if_pos inside, max_eq_left entered, level]
        simp only [Bucket.refill]
        linarith
      · rw [if_neg fun all => entered all.2.1, zero_add, consumed, available, if_pos inside]
        rw [available, if_pos inside] at fell
        exact (add_le_add (Bucket.level_refill_le less) le_rfl).trans fell
    · rw [if_neg fun all => inside all.2.2, zero_add, available, if_neg inside]
      exact valid.available_nonneg window

omit window

theorem checkRateLimit_both (limited : 0 < config.perClientRps) (request : Request) :
    checkRateLimit request ⟨config, buckets, some global⟩ =
      if (global.tryConsume request.now).1 then
        ((consumeClient request ⟨config, buckets, none⟩).1, ⟨config,
          buckets.insert request.client (consumeClient request ⟨config, buckets, none⟩).2,
          some (global.tryConsume request.now).2⟩)
      else (false, ⟨config, buckets, some (global.tryConsume request.now).2⟩) := by
  simp only [checkRateLimit, checkClient, limited, if_true]
  rfl

theorem new_valid (capacity rate : Nat) : Valid now (.new capacity rate now) :=
  ⟨Nat.cast_nonneg _, Nat.cast_nonneg _, Nat.cast_nonneg _, le_rfl⟩

/-- The bucket of a client that was seen, or what a full one comes to. -/
def share (config : RateLimitConfig) (client : IpAddr) (first last now : Rat)
    (buckets : Buckets) : Rat :=
  (buckets.lookup client).elim (config.perClientBurst + (last - first) * config.perClientRps) (available first last now)

def Owned (config : RateLimitConfig) (client : IpAddr) (now : Rat) (buckets : Buckets) : Prop :=
  ∀ bucket ∈ buckets.lookup client,
    Valid now bucket ∧ bucket.capacity = config.perClientBurst ∧ bucket.refillRate = config.perClientRps

section Steps

variable (window : first ≤ last) (limited : 0 < config.perClientRps) (later : now ≤ request.now)
include window

theorem share_nonneg (owned : Owned config client now buckets) : 0 ≤ share config client first last now buckets := by
  unfold share
  cases found : buckets.lookup client with
  | none => exact add_nonneg (Nat.cast_nonneg _) (mul_nonneg (sub_nonneg.mpr window) (Nat.cast_nonneg _))
  | some bucket => exact (owned bucket found).1.available_nonneg window

theorem share_later (owned : Owned config client now buckets) (later : now ≤ time) :
    Owned config client time buckets ∧
      share config client first last time buckets ≤ share config client first last now buckets := by
  refine ⟨fun bucket found => ?_, ?_⟩
  · obtain ⟨valid, sizes⟩ := owned bucket found
    exact ⟨⟨valid.tokens, valid.capacity, valid.refillRate, valid.lastRefill.trans later⟩, sizes⟩
  · unfold share
    cases found : buckets.lookup client with
    | none => exact le_rfl
    | some bucket => exact (owned bucket found).1.available_later window later

include later

/-- The bucket of the client as the request finds it. -/
theorem bucketFor_share (owned : Owned config request.client now buckets) : ∃ since,
    Valid since (bucketFor request ⟨config, buckets, none⟩) ∧ since ≤ request.now ∧
    available first last since (bucketFor request ⟨config, buckets, none⟩) ≤
      share config request.client first last now buckets ∧
    (bucketFor request ⟨config, buckets, none⟩).capacity = config.perClientBurst ∧
    (bucketFor request ⟨config, buckets, none⟩).refillRate = config.perClientRps := by
  unfold bucketFor share
  cases found : buckets.lookup request.client with
  | none =>
    exact ⟨request.now, new_valid _ _, le_rfl, (new_valid _ _).available_le_full window, rfl, rfl⟩
  | some bucket =>
    obtain ⟨valid, sizes⟩ := owned bucket found
    exact ⟨now, valid, later, le_rfl, sizes⟩

include limited

theorem checkRateLimit_available (valid : Valid now global) : ∃ buckets' global',
    (checkRateLimit request ⟨config, buckets, some global⟩).2 = ⟨config, buckets', some global'⟩ ∧
    Valid request.now global' ∧
    (if admittedIn first last (request, (checkRateLimit request ⟨config, buckets, some global⟩).1) then 1 else 0) +
      available first last request.now global' ≤ available first last now global := by
  obtain ⟨next, falls⟩ := valid.consume window later
  rw [checkRateLimit_both limited]
  cases passed : (global.tryConsume request.now).1 with
  | false => exact ⟨_, _, rfl, next, by simpa [passed, admittedIn] using falls⟩
  | true =>
    refine ⟨_, _, rfl, next, le_trans (add_le_add ?_ le_rfl) falls⟩
    simp only [passed, if_true, admittedIn, Bool.and_eq_true, decide_eq_true_eq, true_and]
    split
    · rename_i admitted
      rw [if_pos admitted.2]
    · split <;> simp

theorem checkRateLimit_share (owned : Owned config client now buckets) : ∃ buckets' global',
    (checkRateLimit request ⟨config, buckets, some global⟩).2 = ⟨config, buckets', some global'⟩ ∧
    Owned config client request.now buckets' ∧
    (if request.client = client && admittedIn first last
        (request, (checkRateLimit request ⟨config, buckets, some global⟩).1) then 1 else 0) +
      share config client first last request.now buckets' ≤ share config client first last now buckets := by
  have idle := share_later window owned later
  rw [checkRateLimit_both limited]
  cases passed : (global.tryConsume request.now).1 with
  | false => exact ⟨_, _, rfl, idle.1, by simpa [admittedIn] using idle.2⟩
  | true =>
    refine ⟨_, _, rfl, ?_⟩
    by_cases same : request.client = client
    · subst same
      obtain ⟨since, valid, before, most, sizes⟩ := bucketFor_share window later owned
      obtain ⟨next, falls⟩ := valid.consume window before
      refine ⟨fun bucket found => ?_, ?_⟩
      · rw [AList.lookup_insert] at found
        cases found
        exact ⟨next, Bucket.tryConsume_sizes.1.trans sizes.1, Bucket.tryConsume_sizes.2.trans sizes.2⟩
      · rw [share, AList.lookup_insert]
        simpa [admittedIn, consumeClient] using falls.trans most
    · rw [Owned, share, AList.lookup_insert_ne (Ne.symm same)]
      exact ⟨idle.1, by simpa [same, share] using idle.2⟩

end Steps

end Windows

/-- In no time window are more requests admitted than the buckets hold and gain:
neither of one client nor of all. -/
theorem admitted_bounded (limited : 0 < config.perClientRps) (shared : 0 < config.globalRps)
    {start : Rat} {requests : List Request} (ordered : InOrder start requests) (first : Rat) {span : Rat}
    (forward : 0 ≤ span) (client : IpAddr) :
    (((new config start).decided requests).countP
        fun decision => decision.1.client = client && admittedIn first (first + span) decision : Rat) ≤
      config.perClientBurst + config.perClientRps * span ∧
    (((new config start).decided requests).countP (admittedIn first (first + span)) : Rat) ≤
      config.globalBurst + config.globalRps * span := by
  have window : first ≤ first + span := le_add_of_nonneg_right forward
  rw [new_shared start shared]
  refine ⟨?_, ?_⟩
  · refine (countP_le (fun now limiter => share config client first (first + span) now limiter.clientBuckets)
      (fun now limiter => ∃ buckets global, limiter = ⟨config, buckets, some global⟩ ∧ Owned config client now buckets)
      ?_ ?_ ⟨_, _, rfl, by simp [Owned]⟩ ordered).trans (le_of_eq ?_)
    · rintro now _ ⟨buckets, global, rfl, owned⟩
      exact share_nonneg window owned
    · rintro now _ request ⟨buckets, global, rfl, owned⟩ later
      obtain ⟨buckets', global', after, next, falls⟩ := checkRateLimit_share window limited later owned
      rw [after]
      exact ⟨⟨buckets', global', rfl, next⟩, falls⟩
    · simp [share, mul_comm]
  · refine (countP_le (fun now limiter => limiter.globalBucket.elim 0 (available first (first + span) now))
      (fun now limiter => ∃ buckets global, limiter = ⟨config, buckets, some global⟩ ∧ Valid now global)
      ?_ ?_ ⟨_, _, rfl, new_valid _ _⟩ ordered).trans ?_
    · rintro now _ ⟨buckets, global, rfl, valid⟩
      exact valid.available_nonneg window
    · rintro now _ request ⟨buckets, global, rfl, valid⟩ later
      obtain ⟨buckets', global', after, next, falls⟩ := checkRateLimit_available window limited later valid
      rw [after]
      exact ⟨⟨buckets', global', rfl, next⟩, falls⟩
    · refine ((new_valid _ _).available_le_full window).trans (le_of_eq ?_)
      simp [Bucket.new, mul_comm]

/-- Client 1 has one request admitted, is denied the next, and has another admitted
a second later. -/
def sampleArrivals : List Request :=
  [⟨sampleClient 1, 0⟩, ⟨sampleClient 1, 0⟩, ⟨sampleClient 1, 1⟩]

theorem sampleArrivals_bounded :
    InOrder 0 sampleArrivals ∧
    ((new ⟨1, 1, 1, 2⟩ 0).decided sampleArrivals).countP
      (fun decision => decision.1.client = sampleClient 1 && admittedIn 0 1 decision) = 2 ∧
    (((new ⟨1, 1, 1, 2⟩ 0).decided sampleArrivals).countP
      (fun decision => decision.1.client = sampleClient 1 && admittedIn 0 (0 + 1) decision) : Rat) ≤ 1 + 1 * 1 := by
  have ordered : InOrder 0 sampleArrivals := by simp [InOrder, sampleArrivals]
  refine ⟨ordered, by decide +kernel, ?_⟩
  exact_mod_cast (@admitted_bounded ⟨1, 1, 1, 2⟩ (by decide) (by decide) 0 _ ordered 0 1 one_pos.le (sampleClient 1)).1

end RateLimiter

end UsgRadius.RateLimit
