import UsgRadius.Auth.CacheLocking

namespace UsgRadius.PostgresAuthHandler

open Data ShardedMap

/-! Whether the cache of verified passwords shows: calls one after another, with
any change of the database between them, against calls without the cache. -/

/-- A call and what the clock and the database give during it. -/
structure Call where
  username : String
  password : String
  now : Nat → Nat
  database : (query username : String) → Except String (Option (Except String String))

variable {count : Nat} {sha256 : Octets → Block 32} {shardOf : CacheKey → Fin count} {config : PostgresConfig}
  {verify : HashScheme → (password hash : String) → Except String Bool}

namespace Call

/-- What the key of a call is the digest of. -/
def text (call : Call) : Octets :=
  utf8 call.username ++ utf8 ":" ++ utf8 call.password

section Runs

variable (sha256 : Octets → Block 32) (shardOf : CacheKey → Fin count) (config : PostgresConfig)
  (verify : HashScheme → (password hash : String) → Except String Bool) (call : Call)

def key : CacheKey :=
  cacheKey sha256 call.username call.password

def around : Surroundings where
  now := call.now
  rows := fun _ => call.database
  verify := verify

/-- The hash that the database has for the user. -/
def stored : Except PostgresError String :=
  storedHash call.username (call.database config.query call.username)

/-- The call on a cache. -/
def run (cache : ShardedMap CacheKey PasswordCacheEntry shardOf) : Option (Except Empty Bool × World shardOf) :=
  PostgresAuthHandler.run sha256 shardOf config (call.around verify) call.username call.password cache

/-- The call answers as it would with caching disabled. -/
def Transparent (cache : ShardedMap CacheKey PasswordCacheEntry shardOf) : Prop :=
  (call.run sha256 shardOf config verify cache).map Prod.fst =
    (call.run sha256 shardOf { config with enablePasswordCache := false } verify cache).map Prod.fst

/-- The call has to evict an entry of a full cache, so that it waits for itself. -/
def waitsForItself (cache : ShardedMap CacheKey PasswordCacheEntry shardOf) : Bool :=
  verifiesFully sha256 shardOf config (call.around verify) call.username call.password cache &&
    isOverfull shardOf config (checkedCache sha256 shardOf config call.username call.password (call.now 0) cache)

end Runs

theorem password_eq {left right : Call} (sameText : left.text = right.text) (sameUser : left.username = right.username) :
    left.password = right.password := by
  unfold text at sameText
  rw [sameUser] at sameText
  have same : utf8 left.password = utf8 right.password := List.append_cancel_left sameText
  simpa using congrArg fromUtf8 same

end Call

/-- The caches that sequences of calls leave, from an empty one. A call that
does not come back has nothing after it. -/
inductive Leaves (sha256 : Octets → Block 32) (shardOf : CacheKey → Fin count) (config : PostgresConfig)
    (verify : HashScheme → (password hash : String) → Except String Bool) :
    List Call → ShardedMap CacheKey PasswordCacheEntry shardOf → Prop
  | initial : Leaves sha256 shardOf config verify [] .empty
  | call {history : List Call} {cache : ShardedMap CacheKey PasswordCacheEntry shardOf} {outcome : Except Empty Bool}
      {after : World shardOf} (before : Leaves sha256 shardOf config verify history cache) (next : Call)
      (returned : next.run sha256 shardOf config verify cache = some (outcome, after)) :
      Leaves sha256 shardOf config verify (history ++ [next]) after.map

def Vouched (sha256 : Octets → Block 32) (config : PostgresConfig)
    (verify : HashScheme → (password hash : String) → Except String Bool) (history : List Call)
    (cache : ShardedMap CacheKey PasswordCacheEntry shardOf) : Prop :=
  ∀ key entry, cache.lookup key = some entry → ∃ earlier ∈ history, earlier.key sha256 = key ∧
    earlier.stored config = .ok entry.hash ∧
      passwordVerdict config (earlier.around verify) earlier.password entry.hash = .ok true

section Entries

variable {history : List Call} {cache after : ShardedMap CacheKey PasswordCacheEntry shardOf} {call : Call}
  {queries now : Nat} {hash : String} {answer : Bool}

theorem verifiedHash_eq_some
    (verified : verifiedHash config (call.around verify) call.username call.password queries = some hash) :
    call.stored config = .ok hash ∧ passwordVerdict config (call.around verify) call.password hash = .ok true := by
  unfold verifiedHash at verified
  cases found : credentials config (call.around verify) call.username queries with
  | error reason =>
    rw [found] at verified
    cases verified
  | ok stored =>
    rw [found] at verified
    dsimp only at verified
    split at verified
    next passed =>
      cases verified
      exact ⟨found, passed⟩
    next => cases verified
    next => cases verified

section

variable (vouched : Vouched sha256 config verify history cache)

include vouched

theorem Vouched.checked (username password : String) (now : Nat) :
    Vouched sha256 config verify history (checkedCache sha256 shardOf config username password now cache) := by
  intro key entry found
  unfold checkedCache at found
  split at found
  next => exact vouched key entry found
  next =>
    split at found
    next =>
      by_cases own : key = cacheKey sha256 username password
      · rw [own, lookup_erase_self] at found
        cases found
      · rw [lookup_erase_ne _ own] at found
        exact vouched key entry found
    next => exact vouched key entry found

theorem Vouched.mono (call : Call) :
    Vouched sha256 config verify (history ++ [call]) cache := by
  intro key entry found
  obtain ⟨earlier, member, facts⟩ := vouched key entry found
  exact ⟨earlier, List.mem_append_left _ member, facts⟩

theorem Vouched.full
    (ended : fullOutcome sha256 shardOf config (call.around verify) call.username call.password now queries cache =
      some (answer, after)) : Vouched sha256 config verify (history ++ [call]) after := by
  unfold fullOutcome at ended
  split at ended
  next =>
    cases ended
    exact vouched.mono call
  next hash verified =>
    split at ended
    next => cases ended
    next =>
      cases ended
      unfold rememberedCache
      split
      next =>
        intro key entry found
        by_cases own : key = cacheKey sha256 call.username call.password
        · subst own
          rw [lookup_insert_self, Option.some.injEq] at found
          subst found
          exact ⟨call, by simp, rfl, verifiedHash_eq_some verified⟩
        · rw [lookup_insert_ne _ own] at found
          exact vouched.mono call key entry found
      next => exact vouched.mono call

theorem Vouched.step {outcome : Except Empty Bool} {after : World shardOf}
    (returned : call.run sha256 shardOf config verify cache = some (outcome, after)) :
    Vouched sha256 config verify (history ++ [call]) after.map := by
  obtain ⟨now, asked, ran⟩ := run_eq sha256 shardOf config (call.around verify) call.username call.password cache
  rw [Call.run, ran, Option.map_eq_some_iff] at returned
  obtain ⟨⟨answer, left⟩, ended, same⟩ := returned
  cases same
  have checked := vouched.checked call.username call.password (call.now 0)
  unfold callOutcome at ended
  split at ended
  next => exact checked.full ended
  next =>
    split at ended
    next =>
      cases ended
      exact checked.mono call
    next =>
      split at ended
      next =>
        cases ended
        exact checked.mono call
      next => exact checked.full ended

end

theorem Leaves.vouched (leaves : Leaves sha256 shardOf config verify history cache) :
    Vouched sha256 config verify history cache := by
  induction leaves with
  | initial =>
    intro key entry found
    rw [lookup_empty] at found
    cases found
  | call before next returned ih => exact ih.step returned

theorem fullOutcome_answer
    (ended : fullOutcome sha256 shardOf config (call.around verify) call.username call.password now queries cache =
      some (answer, after)) : answer = passes config (call.around verify) call.username call.password queries := by
  rw [passes_eq]
  unfold fullOutcome at ended
  split at ended
  next failed =>
    cases ended
    rw [failed]
    rfl
  next hash verified =>
    split at ended
    next => cases ended
    next =>
      cases ended
      rw [verified]
      rfl

theorem uncached_run :
    (call.run sha256 shardOf { config with enablePasswordCache := false } verify cache).map Prod.fst =
      some (.ok (passes config (call.around verify) call.username call.password 0)) := by
  obtain ⟨now, asked, ran⟩ := run_eq sha256 shardOf { config with enablePasswordCache := false } (call.around verify)
    call.username call.password cache
  rw [Call.run, ran, Option.map_map]
  have direct : callOutcome sha256 shardOf { config with enablePasswordCache := false } (call.around verify)
      call.username call.password now cache =
        fullOutcome sha256 shardOf { config with enablePasswordCache := false } (call.around verify) call.username
          call.password now 0 (checkedCache sha256 shardOf { config with enablePasswordCache := false } call.username
            call.password (call.now 0) cache) := rfl
  rw [direct]
  cases ended : fullOutcome sha256 shardOf { config with enablePasswordCache := false } (call.around verify) call.username
      call.password now 0 (checkedCache sha256 shardOf { config with enablePasswordCache := false } call.username
        call.password (call.now 0) cache) with
  | none =>
    have returned := congrArg Option.isSome ended
    rw [fullOutcome_isSome] at returned
    simp [isOverfull] at returned
  | some outcome =>
    have answered : outcome.1 = passes { config with enablePasswordCache := false } (call.around verify) call.username
      call.password 0 := fullOutcome_answer ended
    rw [Option.map_some, Function.comp_apply, answered]
    rfl

theorem cachedHash_eq_some {username password : String}
    (cached : cachedHash sha256 shardOf config username password now cache = some hash) :
    ∃ entry, cache.lookup (cacheKey sha256 username password) = some entry ∧ entry.hash = hash := by
  unfold cachedHash at cached
  split at cached
  next =>
    obtain ⟨entry, found, fresh⟩ := Option.bind_eq_some_iff.mp cached
    split at fresh
    next =>
      cases fresh
      exact ⟨entry, found, rfl⟩
    next => cases fresh
  next => cases cached

/-- A hash that was verified for the same text, and is the user's own, is one
that the password passes. -/
theorem Vouched.passes (vouched : Vouched sha256 config verify history cache)
    (collisionFree : ∀ earlier ∈ history, sha256 earlier.text = sha256 call.text → earlier.text = call.text)
    (separate : ∀ earlier ∈ history, earlier.text = call.text →
      earlier.username = call.username ∨ earlier.stored config ≠ call.stored config)
    (cached : cachedHash sha256 shardOf config call.username call.password now cache = some hash)
    (current : call.stored config = .ok hash) :
    passwordVerdict config (call.around verify) call.password hash = .ok true := by
  obtain ⟨entry, found, rfl⟩ := cachedHash_eq_some cached
  obtain ⟨earlier, member, sameKey, stored, passed⟩ := vouched _ _ found
  have sameText : earlier.text = call.text := collisionFree earlier member sameKey
  rcases separate earlier member sameText with sameUser | differs
  · rw [Call.password_eq sameText sameUser] at passed
    exact passed
  · rw [stored, current] at differs
    exact absurd rfl differs

end Entries

/-- With a digest without collisions, calls whose user and password no other
user with the same stored hash has spelt the same way answer as without the
cache, unless they wait for themselves. -/
theorem authenticate_transparent (sha256 : Octets → Block 32) (shardOf : CacheKey → Fin count) (config : PostgresConfig)
    (verify : HashScheme → (password hash : String) → Except String Bool) {history : List Call}
    {cache : ShardedMap CacheKey PasswordCacheEntry shardOf} (call : Call)
    (leaves : Leaves sha256 shardOf config verify history cache)
    (collisionFree : ∀ earlier ∈ history, sha256 earlier.text = sha256 call.text → earlier.text = call.text)
    (separate : ∀ earlier ∈ history, earlier.text = call.text →
      earlier.username = call.username ∨ earlier.stored config ≠ call.stored config) :
    call.Transparent sha256 shardOf config verify cache ↔
      call.waitsForItself sha256 shardOf config verify cache = false := by
  have returns := authenticate_returns_iff sha256 shardOf config (call.around verify) call.username call.password cache
  rw [← Bool.and_eq_true, Bool.not_eq_true] at returns
  rw [Call.Transparent, uncached_run]
  refine ⟨fun same => returns.mp ?_, fun free => ?_⟩
  · have answered := congrArg Option.isSome same
    rwa [Option.isSome_map] at answered
  · obtain ⟨now, asked, ran⟩ := run_eq sha256 shardOf config (call.around verify) call.username call.password cache
    have returned := returns.mpr free
    rw [ran, Option.isSome_map] at returned
    obtain ⟨⟨answer, after⟩, ended⟩ := Option.isSome_iff_exists.mp returned
    rw [Call.run, ran, ended]
    suffices answered : answer = passes config (call.around verify) call.username call.password 0 by simp [answered]
    unfold callOutcome at ended
    split at ended
    next => exact fullOutcome_answer ended
    next hash cached =>
      split at ended
      next reason failed =>
        cases ended
        simp only [passes, failed]
      next current found =>
        split at ended
        next same =>
          cases ended
          subst same
          simp only [passes, found, leaves.vouched.passes collisionFree separate cached found]
        next => exact fullOutcome_answer ended

/-- A digest that keeps short texts apart. -/
def paddedDigest (data : Octets) : Block 32 :=
  ⟨resize data 32, resize_length data 32⟩

def roomyConfig : PostgresConfig :=
  { sampleConfig with passwordCacheSize := 100 }

/-- A call of a user whose stored password, in plain text, is `b:c`. -/
def sampleCall (username password : String) : Call where
  username := username
  password := password
  now := fun _ => 0
  database := fun _ _ => .ok (some (.ok "b:c"))

def oneShard (_ : CacheKey) : Fin 1 := 0

/-- The user `a` logs in, and again. -/
theorem sampleCall_transparent : ∃ cache,
    Leaves paddedDigest oneShard roomyConfig sampleAround.verify [sampleCall "a" "b:c"] cache ∧
      (sampleCall "a" "b:c").Transparent paddedDigest oneShard roomyConfig sampleAround.verify cache := by
  have free : (((sampleCall "a" "b:c").run paddedDigest oneShard roomyConfig sampleAround.verify .empty).map fun result =>
      (sampleCall "a" "b:c").waitsForItself paddedDigest oneShard roomyConfig sampleAround.verify result.2.map) =
        some false := by decide +kernel
  cases returned : (sampleCall "a" "b:c").run paddedDigest oneShard roomyConfig sampleAround.verify .empty with
  | none =>
    rw [returned] at free
    cases free
  | some result =>
    have leaves : Leaves paddedDigest oneShard roomyConfig sampleAround.verify [sampleCall "a" "b:c"] result.2.map :=
      .call .initial _ returned
    rw [returned, Option.map_some, Option.some.injEq] at free
    refine ⟨result.2.map, leaves, (authenticate_transparent paddedDigest oneShard roomyConfig sampleAround.verify
      (sampleCall "a" "b:c") leaves ?_ ?_).mpr free⟩
    · intro earlier member _
      rw [List.mem_singleton.mp member]
    · intro earlier member _
      rw [List.mem_singleton.mp member]
      exact .inl rfl

/-- After `a` has logged in with `b:c`, the user `a:b` gets in with `c`, which is
not the password. -/
theorem sampleCall_misled : ∃ cache,
    Leaves paddedDigest oneShard roomyConfig sampleAround.verify [sampleCall "a" "b:c"] cache ∧
      ((sampleCall "a:b" "c").run paddedDigest oneShard roomyConfig sampleAround.verify cache).map Prod.fst =
        some (.ok true) ∧
      ((sampleCall "a:b" "c").run paddedDigest oneShard { roomyConfig with enablePasswordCache := false }
        sampleAround.verify cache).map Prod.fst = some (.ok false) := by
  have misled : (((sampleCall "a" "b:c").run paddedDigest oneShard roomyConfig sampleAround.verify .empty).bind fun result =>
      ((sampleCall "a:b" "c").run paddedDigest oneShard roomyConfig sampleAround.verify result.2.map).map Prod.fst) =
        some (.ok true) := by decide +kernel
  have uncached : (((sampleCall "a" "b:c").run paddedDigest oneShard roomyConfig sampleAround.verify .empty).bind
      fun result => ((sampleCall "a:b" "c").run paddedDigest oneShard { roomyConfig with enablePasswordCache := false }
        sampleAround.verify result.2.map).map Prod.fst) = some (.ok false) := by decide +kernel
  cases returned : (sampleCall "a" "b:c").run paddedDigest oneShard roomyConfig sampleAround.verify .empty with
  | none =>
    rw [returned] at misled
    cases misled
  | some result =>
    rw [returned, Option.bind_some] at misled uncached
    exact ⟨result.2.map, .call .initial _ returned, misled, uncached⟩

end UsgRadius.PostgresAuthHandler
