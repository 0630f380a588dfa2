import UsgRadius.Data.Octets
import UsgRadius.Data.Sharded

namespace UsgRadius

open Data Program ShardedMap

/-! Authentication against a PostgreSQL database, with a cache of verified
passwords. The database, the password hashes and the clock are outside. -/

inductive PostgresError where
  | connection (reason : String)
  | query (reason : String)
  | userNotFound (username : String)
  | authFailed
  | passwordVerification (reason : String)
deriving DecidableEq

structure PostgresConfig where
  query : String
  /-- The algorithm of the password hashes. -/
  passwordHash : String
  enablePasswordCache : Bool
  /-- In seconds. -/
  passwordCacheTtl : Nat
  passwordCacheSize : Nat
deriving DecidableEq

structure PasswordCacheEntry where
  hash : String
  /-- In nanoseconds. -/
  verifiedAt : Nat
deriving DecidableEq

/-- `elapsed().as_secs() < ttl`. -/
def PasswordCacheEntry.isFresh (ttl now : Nat) (entry : PasswordCacheEntry) : Bool :=
  (now - entry.verifiedAt) / 1000000000 < ttl

namespace PostgresAuthHandler

inductive HashScheme where
  | bcrypt
  | argon2
  | pbkdf2
deriving DecidableEq

inductive PasswordCheck where
  | hashed (scheme : HashScheme)
  | plain
  | unsupported
deriving DecidableEq

def PasswordCheck.named (algorithm : String) : PasswordCheck :=
  match algorithm with
  | "bcrypt" => hashed .bcrypt
  | "argon2" => hashed .argon2
  | "pbkdf2" => hashed .pbkdf2
  | "plain" => plain
  | _ => unsupported

/-- What the handler asks of its surroundings. A row is what its `password_hash`
column gives. -/
inductive Asks : Type → Type
  | now : Asks Nat
  | fetchOptional (query username : String) : Asks (Except String (Option (Except String String)))
  | verify (scheme : HashScheme) (password hash : String) : Asks (Except String Bool)

abbrev CacheKey := Block 32

abbrev Action (count : Nat) (Value : Type) :=
  ShardedMap.Action Asks CacheKey PasswordCacheEntry count Value

variable {count : Nat}

section Handler

variable (sha256 : Octets → Block 32) (shardOf : CacheKey → Fin count) (config : PostgresConfig)

def cacheKey (username password : String) : CacheKey :=
  sha256 (utf8 username ++ utf8 ":" ++ utf8 password)

def checkCache (username password : String) : Action count (Option String) := do
  if !config.enablePasswordCache then
    return none
  else do
    let key := cacheKey sha256 username password
    match ← get shardOf key with
    | none => return none
    | some entry => do
      if entry.isFresh config.passwordCacheTtl (← ask (.inr .now)) then do
        dropRef shardOf key
        return some entry.hash
      else do
        dropRef shardOf key
        remove shardOf key
        return none

/-- The iterator is a temporary of the scrutinee: dropping the entry leaves it
alive, and with it the guard of its shard, until the key has been removed. -/
def evictOne : Action count Unit := do
  let (entry, iterator) ← next
  match entry with
  | some (keyToRemove, _) => do
    remove shardOf keyToRemove
    dropIter iterator
  | none => dropIter iterator

def cacheVerification (username password hash : String) : Action count Unit := do
  if !config.enablePasswordCache then
    return ()
  else do
    if (← len) ≥ config.passwordCacheSize then
      evictOne shardOf
    let key := cacheKey sha256 username password
    put shardOf key ⟨hash, ← ask (.inr .now)⟩
    let _ ← len
    return ()

def verifyPassword (password hash : String) : Action count (Except PostgresError Bool) :=
  match PasswordCheck.named config.passwordHash with
  | .hashed scheme => do
    return (← ask (.inr (.verify scheme password hash))).mapError .passwordVerification
  | .plain => return .ok (password == hash)
  | .unsupported => return .error (.passwordVerification ("Unsupported password algorithm: " ++ config.passwordHash))

def storedHash (username : String) : Except String (Option (Except String String)) → Except PostgresError String
  | .error reason => .error (.query reason)
  | .ok none => .error (.userNotFound username)
  | .ok (some (.error reason)) => .error (.query reason)
  | .ok (some (.ok hash)) => .ok hash

def getUserCredentials (username : String) : Action count (Except PostgresError String) := do
  return storedHash username (← ask (.inr (.fetchOptional config.query username)))

def authenticateFully (username password : String) : Action count Bool := do
  match ← getUserCredentials config username with
  | .error _ => return false
  | .ok passwordHash =>
    match ← verifyPassword config password passwordHash with
    | .error _ => return false
    | .ok false => return false
    | .ok true => do
      cacheVerification sha256 shardOf config username password passwordHash
      return true

def authenticate (username password : String) : Action count Bool := do
  match ← checkCache sha256 shardOf config username password with
  | none => authenticateFully sha256 shardOf config username password
  | some cachedHash =>
    match ← getUserCredentials config username with
    | .error _ => return false
    | .ok currentHash =>
      if currentHash = cachedHash then return true
      else authenticateFully sha256 shardOf config username password

end Handler

structure Asked where
  readings : Nat
  queries : Nat
deriving DecidableEq

/-- The answers a call is given, one after another. -/
structure Surroundings where
  now : Nat → Nat
  rows : Nat → (query username : String) → Except String (Option (Except String String))
  verify : HashScheme → (password hash : String) → Except String Bool

def answer (around : Surroundings) : (Answer : Type) → Asks Answer → Asked → Answer × Asked
  | _, .now, asked => (around.now asked.readings, { asked with readings := asked.readings + 1 })
  | _, .fetchOptional query username, asked =>
    (around.rows asked.queries query username, { asked with queries := asked.queries + 1 })
  | _, .verify scheme password hash, asked => (around.verify scheme password hash, asked)

abbrev World (shardOf : CacheKey → Fin count) :=
  ShardedMap.World Asked PasswordCacheEntry shardOf

/-- A call on a cache that no one else uses. -/
def run (sha256 : Octets → Block 32) (shardOf : CacheKey → Fin count) (config : PostgresConfig)
    (around : Surroundings) (username password : String) (cache : ShardedMap CacheKey PasswordCacheEntry shardOf) :
    Option (Except Empty Bool × World shardOf) :=
  (authenticate sha256 shardOf config username password).exec (perform (answer around))
    ⟨cache, .unlocked, ⟨0, 0⟩⟩

end PostgresAuthHandler

end UsgRadius
