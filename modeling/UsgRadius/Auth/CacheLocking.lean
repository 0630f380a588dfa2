import UsgRadius.Auth.Postgres

namespace UsgRadius.PostgresAuthHandler

open Data Program ShardedMap

/-! Whether a call of `authenticate` comes back. It is run on a cache that no one
else uses, so that it can only wait for a lock that it holds itself. -/

variable {count : Nat} {sha256 : Octets → Block 32} {shardOf : CacheKey → Fin count} {config : PostgresConfig}
  {around : Surroundings} {username password : String}

section Decisions

variable (sha256 shardOf config around username password)

/-- The hash that the cache still vouches for, read at the time `now`. -/
def cachedHash (now : Nat) (cache : ShardedMap CacheKey PasswordCacheEntry shardOf) : Option String :=
  if config.enablePasswordCache then
    (cache.lookup (cacheKey sha256 username password)).bind fun entry =>
      if entry.isFresh config.passwordCacheTtl now then some entry.hash else none
  else none

/-- The cache without the entry of the call, if that has expired. -/
def checkedCache (now : Nat) (cache : ShardedMap CacheKey PasswordCacheEntry shardOf) :
    ShardedMap CacheKey PasswordCacheEntry shardOf :=
  match cache.lookup (cacheKey sha256 username password) with
  | none => cache
  | some entry =>
    if config.enablePasswordCache && !entry.isFresh config.passwordCacheTtl now then
      cache.erase (cacheKey sha256 username password)
    else cache

def passwordVerdict (hash : String) : Except PostgresError Bool :=
  match PasswordCheck.named config.passwordHash with
  | .hashed scheme => (around.verify scheme password hash).mapError .passwordVerification
  | .plain => .ok (password == hash)
  | .unsupported => .error (.passwordVerification ("Unsupported password algorithm: " ++ config.passwordHash))

/-- What the query that comes after `queries` others gives. -/
def credentials (queries : Nat) : Except PostgresError String :=
  storedHash username (around.rows queries config.query username)

def verifiedHash (queries : Nat) : Option String :=
  match credentials config around username queries with
  | .error _ => none
  | .ok hash =>
    match passwordVerdict config around password hash with
    | .ok true => some hash
    | .ok false => none
    | .error _ => none

def passes (queries : Nat) : Bool :=
  match credentials config around username queries with
  | .error _ => false
  | .ok hash =>
    match passwordVerdict config around password hash with
    | .ok valid => valid
    | .error _ => false

/-- The password is checked against the stored hash, and it passes. -/
def verifiesFully (cache : ShardedMap CacheKey PasswordCacheEntry shardOf) : Bool :=
  match cachedHash sha256 shardOf config username password (around.now 0) cache with
  | none => passes config around username password 0
  | some cached =>
    match credentials config around username 0 with
    | .error _ => false
    | .ok current => current != cached && passes config around username password 1

/-- There is an entry to evict, and it has to go. -/
def isOverfull (cache : ShardedMap CacheKey PasswordCacheEntry shardOf) : Bool :=
  config.enablePasswordCache && decide (0 < cache.size) && decide (config.passwordCacheSize ≤ cache.size)

def rememberedCache (hash : String) (now : Nat) (cache : ShardedMap CacheKey PasswordCacheEntry shardOf) :
    ShardedMap CacheKey PasswordCacheEntry shardOf :=
  if config.enablePasswordCache then cache.insert (cacheKey sha256 username password) ⟨hash, now⟩ else cache

/-- The answer of a full check and the cache after it; `none` where it waits for itself. -/
def fullOutcome (now queries : Nat) (cache : ShardedMap CacheKey PasswordCacheEntry shardOf) :
    Option (Bool × ShardedMap CacheKey PasswordCacheEntry shardOf) :=
  match verifiedHash config around username password queries with
  | none => some (false, cache)
  | some hash =>
    if isOverfull shardOf config cache then none
    else some (true, rememberedCache sha256 shardOf config username password hash now cache)

/-- The answer of a call, whose check is stored at the time `now`, and the cache after it. -/
def callOutcome (now : Nat) (cache : ShardedMap CacheKey PasswordCacheEntry shardOf) :
    Option (Bool × ShardedMap CacheKey PasswordCacheEntry shardOf) :=
  let checked := checkedCache sha256 shardOf config username password (around.now 0) cache
  match cachedHash sha256 shardOf config username password (around.now 0) cache with
  | none => fullOutcome sha256 shardOf config around username password now 0 checked
  | some cached =>
    match credentials config around username 0 with
    | .error _ => some (false, checked)
    | .ok current =>
      if current = cached then some (true, checked)
      else fullOutcome sha256 shardOf config around username password now 1 checked

end Decisions

section Parts

variable {cache : ShardedMap CacheKey PasswordCacheEntry shardOf} {asked : Asked}

theorem checkCache_exec : ∃ readings,
    (checkCache sha256 shardOf config username password).exec (perform (answer around)) ⟨cache, .unlocked, asked⟩ =
      some (.ok (cachedHash sha256 shardOf config username password (around.now asked.readings) cache),
        ⟨checkedCache sha256 shardOf config username password (around.now asked.readings) cache, .unlocked,
          ⟨readings, asked.queries⟩⟩) := by
  unfold checkCache cachedHash checkedCache
  cases enabled : config.enablePasswordCache with
  | false =>
    refine ⟨asked.readings, ?_⟩
    cases cache.lookup (cacheKey sha256 username password) <;> rfl
  | true =>
    have got : (get shardOf (cacheKey sha256 username password) : Action count _).exec (perform (answer around))
        ⟨cache, .unlocked, asked⟩ = _ := get_exec
    simp only [Bool.not_true, Bool.false_eq_true, if_false]
    cases found : cache.lookup (cacheKey sha256 username password) with
    | none =>
      simp only [found] at got
      refine ⟨asked.readings, ?_⟩
      rw [exec_bind got]
      rfl
    | some entry =>
      simp only [found] at got
      refine ⟨asked.readings + 1, ?_⟩
      rw [exec_bind got, exec_ask rfl]
      cases fresh : entry.isFresh config.passwordCacheTtl (around.now asked.readings) with
      | true =>
        simp only [answer, fresh, if_true]
        rw [exec_bind dropRef_exec, exec_pure]
        simp [fresh]
      | false =>
        simp only [answer, fresh, Bool.false_eq_true, if_false]
        rw [exec_bind dropRef_exec, exec_bind remove_exec, exec_pure]
        simp [fresh]

theorem getUserCredentials_exec :
    (getUserCredentials config username : Action count _).exec (perform (answer around)) ⟨cache, .unlocked, asked⟩ =
      some (.ok (credentials config around username asked.queries),
        ⟨cache, .unlocked, ⟨asked.readings, asked.queries + 1⟩⟩) := rfl

theorem verifyPassword_exec (hash : String) :
    (verifyPassword config password hash : Action count _).exec (perform (answer around)) ⟨cache, .unlocked, asked⟩ =
      some (.ok (passwordVerdict config around password hash), ⟨cache, .unlocked, asked⟩) := by
  unfold verifyPassword passwordVerdict
  cases PasswordCheck.named config.passwordHash <;> rfl

theorem evictOne_exec : (evictOne shardOf).exec (perform (answer around)) ⟨cache, .unlocked, asked⟩ =
    if 0 < cache.size then none else some (.ok (), ⟨cache, .unlocked, asked⟩) := by
  unfold evictOne
  rw [exec_bind next_exec]
  cases first : cache.firstOf none (List.finRange count) with
  | mk entry iterator =>
    cases entry with
    | none =>
      have empty : cache.size = 0 := firstOf_none first
      simp only [empty, Nat.lt_irrefl, if_false]
      exact dropIter_exec iterator
    | some entry =>
      have filled : 0 < cache.size := firstOf_length first
      rw [if_pos filled, firstOf_some first]
      exact exec_bind_none remove_blocked

theorem cacheVerification_exec (hash : String) : ∃ after,
    (cacheVerification sha256 shardOf config username password hash).exec (perform (answer around))
      ⟨cache, .unlocked, asked⟩ =
        if isOverfull shardOf config cache then none
        else some (.ok (), ⟨rememberedCache sha256 shardOf config username password hash (around.now asked.readings) cache,
          .unlocked, after⟩) := by
  unfold cacheVerification isOverfull rememberedCache
  cases enabled : config.enablePasswordCache with
  | false => exact ⟨asked, rfl⟩
  | true =>
    have stored : (do
        ShardedMap.put shardOf (cacheKey sha256 username password) ⟨hash, ← ask (.inr .now)⟩
        let _ ← ShardedMap.len
        return () : Action count Unit).exec (perform (answer around)) ⟨cache, .unlocked, asked⟩ =
          some (.ok (), ⟨cache.insert (cacheKey sha256 username password) ⟨hash, around.now asked.readings⟩, .unlocked,
            ⟨asked.readings + 1, asked.queries⟩⟩) := by
      rw [exec_ask rfl, exec_bind (put_exec _), exec_bind len_exec]
      rfl
    refine ⟨⟨asked.readings + 1, asked.queries⟩, ?_⟩
    simp only [Bool.not_true, Bool.false_eq_true, if_false, Bool.true_and]
    rw [exec_bind len_exec]
    by_cases full : config.passwordCacheSize ≤ cache.size
    · simp only [ge_iff_le, full, if_true]
      by_cases filled : 0 < cache.size
      · rw [exec_bind_none (by rw [evictOne_exec, if_pos filled])]
        simp [filled]
      · rw [exec_bind (by rw [evictOne_exec, if_neg filled])]
        simpa [filled] using stored
    · simpa [full] using stored

theorem authenticateFully_exec : ∃ after,
    (authenticateFully sha256 shardOf config username password).exec (perform (answer around))
      ⟨cache, .unlocked, asked⟩ =
        (fullOutcome sha256 shardOf config around username password (around.now asked.readings) asked.queries cache).map
          fun outcome => (.ok outcome.1, ⟨outcome.2, .unlocked, after⟩) := by
  unfold authenticateFully fullOutcome verifiedHash
  rw [exec_bind getUserCredentials_exec]
  cases credentials config around username asked.queries with
  | error reason => exact ⟨_, rfl⟩
  | ok hash =>
    dsimp only
    rw [exec_bind (verifyPassword_exec hash)]
    cases passwordVerdict config around password hash with
    | error reason => exact ⟨_, rfl⟩
    | ok valid =>
      cases valid with
      | false => exact ⟨_, rfl⟩
      | true =>
        have remembered : ∃ after, (cacheVerification sha256 shardOf config username password hash).exec
            (perform (answer around)) ⟨cache, .unlocked, ⟨asked.readings, asked.queries + 1⟩⟩ = _ :=
          cacheVerification_exec hash
        obtain ⟨after, remembered⟩ := remembered
        refine ⟨after, ?_⟩
        dsimp only
        by_cases full : isOverfull shardOf config cache = true
        · rw [if_pos full] at remembered ⊢
          exact exec_bind_none remembered
        · rw [if_neg full] at remembered ⊢
          rw [exec_bind remembered]
          rfl

end Parts

theorem run_eq (sha256 : Octets → Block 32) (shardOf : CacheKey → Fin count) (config : PostgresConfig)
    (around : Surroundings) (username password : String) (cache : ShardedMap CacheKey PasswordCacheEntry shardOf) :
    ∃ now after,
    run sha256 shardOf config around username password cache =
      (callOutcome sha256 shardOf config around username password now cache).map
        fun outcome => (.ok outcome.1, ⟨outcome.2, .unlocked, after⟩) := by
  have checked : ∃ readings, (checkCache sha256 shardOf config username password).exec (perform (answer around))
      ⟨cache, .unlocked, ⟨0, 0⟩⟩ = _ := checkCache_exec
  obtain ⟨readings, checked⟩ := checked
  unfold run authenticate callOutcome
  refine ⟨around.now readings, ?_⟩
  rw [exec_bind checked]
  cases cachedHash sha256 shardOf config username password (around.now 0) cache with
  | none => exact authenticateFully_exec
  | some cached =>
    dsimp only
    rw [exec_bind getUserCredentials_exec]
    cases credentials config around username 0 with
    | error reason => exact ⟨_, rfl⟩
    | ok current =>
      dsimp only
      by_cases same : current = cached
      · simp only [if_pos same]
        exact ⟨_, rfl⟩
      · simp only [if_neg same]
        exact authenticateFully_exec

theorem passes_eq (queries : Nat) :
    passes config around username password queries = (verifiedHash config around username password queries).isSome := by
  unfold passes verifiedHash
  cases credentials config around username queries with
  | error reason => rfl
  | ok hash =>
    grind

theorem fullOutcome_isSome (now queries : Nat) (cache : ShardedMap CacheKey PasswordCacheEntry shardOf) :
    (fullOutcome sha256 shardOf config around username password now queries cache).isSome =
      !(passes config around username password queries && isOverfull shardOf config cache) := by
  rw [passes_eq]
  unfold fullOutcome
  cases verifiedHash config around username password queries with
  | none => rfl
  | some hash => cases isOverfull shardOf config cache <;> rfl

/-- A call comes back exactly if it does not have to evict an entry of a full
cache. -/
theorem authenticate_returns_iff (sha256 : Octets → Block 32) (shardOf : CacheKey → Fin count) (config : PostgresConfig)
    (around : Surroundings) (username password : String) (cache : ShardedMap CacheKey PasswordCacheEntry shardOf) :
    (run sha256 shardOf config around username password cache).isSome = true ↔
      ¬ (verifiesFully sha256 shardOf config around username password cache = true ∧
        isOverfull shardOf config (checkedCache sha256 shardOf config username password (around.now 0) cache) = true) := by
  obtain ⟨now, after, ran⟩ := run_eq sha256 shardOf config around username password cache
  rw [ran, Option.isSome_map]
  unfold callOutcome verifiesFully
  cases cachedHash sha256 shardOf config username password (around.now 0) cache with
  | none =>
    dsimp only
    rw [fullOutcome_isSome, Bool.not_eq_true', ← Bool.and_eq_true, Bool.not_eq_true]
  | some cached =>
    cases credentials config around username 0 with
    | error reason => simp
    | ok current =>
      by_cases same : current = cached
      · simp [same]
      · have differs : (current != cached) = true := by simpa using same
        simp only [if_neg same, differs, Bool.true_and]
        rw [fullOutcome_isSome, Bool.not_eq_true', ← Bool.and_eq_true, Bool.not_eq_true]

/-- A cache of two shards that is full with its one entry. -/
def sampleCache :
    ShardedMap CacheKey PasswordCacheEntry fun key =>
      (if key.octets.head? = some 0 then ⟨0, Nat.two_pos⟩ else ⟨1, Nat.one_lt_two⟩ : Fin 2) :=
  ShardedMap.empty.insert (.zero 32) ⟨"secret", 0⟩

def sampleConfig : PostgresConfig where
  query := "SELECT username, password_hash FROM users WHERE username = $1 AND enabled = true"
  passwordHash := "plain"
  enablePasswordCache := true
  passwordCacheTtl := 300
  passwordCacheSize := 1

/-- Everybody's password is `swordfish`. -/
def sampleAround : Surroundings where
  now := fun _ => 0
  rows := fun _ _ _ => .ok (some (.ok "swordfish"))
  verify := fun _ _ _ => .ok false

/-- The right password of a second user is never answered by a full cache. -/
theorem sampleCache_blocks :
    verifiesFully (fun _ => .fill 32 7) _ sampleConfig sampleAround "bob" "swordfish" sampleCache = true ∧
      run (fun _ => .fill 32 7) _ sampleConfig sampleAround "bob" "swordfish" sampleCache = none := by
  have blocked : (run (fun _ => .fill 32 7) _ sampleConfig sampleAround "bob" "swordfish" sampleCache).isNone =
      true := by decide +kernel
  exact ⟨by decide +kernel, Option.isNone_iff_eq_none.mp blocked⟩

end UsgRadius.PostgresAuthHandler
