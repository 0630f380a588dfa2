import UsgRadius.Auth.LdapFilter
import UsgRadius.Data.Program
import Mathlib.Data.List.AList

namespace UsgRadius

open Data Program

/-! Authentication against an LDAP directory: the user is searched for, and then
a connection is bound as the entry that was found. -/

inductive LdapError where
  | connection (reason : String)
  | bind (reason : String)
  | search (reason : String)
  | userNotFound (username : String)
  | authFailed
deriving DecidableEq

structure LdapConfig where
  url : String
  urls : List String
  baseDn : String
  bindDn : Option String
  bindPassword : Option String
  searchFilter : String
  maxConnections : Nat
deriving DecidableEq

def LdapConfig.getServerUrls (config : LdapConfig) : List String :=
  if !config.urls.isEmpty then config.urls
  else if config.url ≠ "" then [config.url]
  else []

namespace Ldap

structure Entry where
  dn : String
  holds : Assertion → Option Bool

structure Directory where
  entries : List Entry
  /-- The entry is in the subtree of a base. -/
  within : (baseDn : String) → Entry → Bool
  /-- The password is that of the name. -/
  checks : (dn password : String) → Bool

namespace Directory

/-- A simple bind without a password succeeds whatever the name
(RFC 4513, 5.1.2). -/
def binds (directory : Directory) (dn password : String) : Bool :=
  password == "" || directory.checks dn password

def matching (directory : Directory) (baseDn : String) (filter : Filter) : List Entry :=
  directory.entries.filter fun entry => directory.within baseDn entry && filter.selects entry.holds

end Directory

end Ldap

inductive ServerHealth where
  | up
  | down
deriving DecidableEq

structure ServerHealthInfo where
  state : ServerHealth
  consecutiveFailures : Nat
  consecutiveSuccesses : Nat
deriving DecidableEq

namespace ServerHealthInfo

def default : ServerHealthInfo := ⟨.up, 0, 0⟩

def succeeded (info : ServerHealthInfo) : ServerHealthInfo where
  state := if info.state = .down ∧ info.consecutiveSuccesses + 1 ≥ 2 then .up else info.state
  consecutiveFailures := 0
  consecutiveSuccesses := info.consecutiveSuccesses + 1

def failed (info : ServerHealthInfo) : ServerHealthInfo where
  state := if info.state = .up ∧ info.consecutiveFailures + 1 ≥ 3 then .down else info.state
  consecutiveFailures := info.consecutiveFailures + 1
  consecutiveSuccesses := 0

end ServerHealthInfo

namespace LdapAuthHandler

inductive Effect : Type → Type
  /-- A place in the pool, before the time is up. -/
  | acquirePermit : Effect (Except String Unit)
  | serverHealth (url : String) : Effect (Option ServerHealthInfo)
  | recordSuccess (url : String) : Effect Unit
  | recordFailure (url : String) : Effect Unit
  | connect (url : String) : Effect (Except String Unit)
  /-- The result of the bind, if there is one. -/
  | simpleBind (dn password : String) : Effect (Except String (Except String Unit))
  | search (baseDn : String) (filter : Octets) : Effect (Except String (List Ldap.Entry))

abbrev Action (Value : Type) := Program Effect Empty Value

section Pool

variable (config : LdapConfig)

def isServerHealthy (url : String) : Action Bool := do
  return match ← ask (.serverHealth url) with
    | some info => info.state == .up
    | none => true

def sortServers : List String → Action (List String × List String)
  | [] => return ([], [])
  | url :: rest => do
    let healthy ← isServerHealthy url
    let (up, down) ← sortServers rest
    return if healthy then (url :: up, down) else (up, url :: down)

def getPrioritizedServers : Action (List String) := do
  let (healthy, unhealthy) ← sortServers config.getServerUrls
  return healthy ++ unhealthy

def bindOrFail (dn password : String) : Action (Except LdapError Unit) := do
  return match ← ask (.simpleBind dn password) with
    | .error reason => .error (.bind reason)
    | .ok (.error reason) => .error (.bind reason)
    | .ok (.ok ()) => .ok ()

def tryConnectAndBind (serverUrl : String) : Action (Except LdapError Unit) := do
  match ← ask (.connect serverUrl) with
  | .error reason => return .error (.connection reason)
  | .ok () =>
    match config.bindDn, config.bindPassword with
    | some bindDn, some bindPassword => bindOrFail bindDn bindPassword
    | _, _ => bindOrFail "" ""

def noServers (lastError : Option LdapError) : LdapError :=
  lastError.getD (.connection "No LDAP servers configured")

def acquireFrom (lastError : Option LdapError) : List String → Action (Except LdapError Unit)
  | [] => return .error (noServers lastError)
  | serverUrl :: rest => do
    match ← tryConnectAndBind config serverUrl with
    | .ok () => do
      ask (.recordSuccess serverUrl)
      return .ok ()
    | .error reason => do
      ask (.recordFailure serverUrl)
      acquireFrom (some reason) rest

def acquire : Action (Except LdapError Unit) := do
  match ← ask .acquirePermit with
  | .error reason => return .error (.connection reason)
  | .ok () => acquireFrom config none (← getPrioritizedServers config)

def connectFrom (userDn password : String) (lastError : Option LdapError) :
    List String → Action (Except LdapError Unit)
  | [] => return .error (noServers lastError)
  | serverUrl :: rest => do
    match ← ask (.connect serverUrl) with
    | .error reason => do
      ask (.recordFailure serverUrl)
      connectFrom userDn password (some (.connection reason)) rest
    | .ok () =>
      match ← ask (.simpleBind userDn password) with
      | .error reason => do
        ask (.recordFailure serverUrl)
        connectFrom userDn password (some (.bind reason)) rest
      | .ok (.ok ()) => do
        ask (.recordSuccess serverUrl)
        return .ok ()
      -- the wrong password is not the server's failure
      | .ok (.error _) => return .error .authFailed

def connectForAuth (userDn password : String) : Action (Except LdapError Unit) := do
  connectFrom userDn password none (← getPrioritizedServers config)

end Pool

/-- `str::replace`, with what is left to skip of the last occurrence. -/
def replaceFrom (pattern new : Octets) : Nat → Octets → Octets
  | _, [] => []
  | skip + 1, _ :: rest => replaceFrom pattern new skip rest
  | 0, octet :: rest =>
    if pattern.isPrefixOf (octet :: rest) then new ++ replaceFrom pattern new (pattern.length - 1) rest
    else octet :: replaceFrom pattern new 0 rest

/-- The text of the filter with `name` in the place of the placeholder. -/
def filterText (config : LdapConfig) (name : Octets) : Octets :=
  replaceFrom (utf8 "{username}") name 0 (utf8 config.searchFilter)

section Handler

variable (config : LdapConfig)

def findUser (username : String) : Action (Except LdapError String) := do
  match ← acquire config with
  | .error reason => return .error reason
  | .ok () =>
    match ← ask (.search config.baseDn (filterText config (utf8 username))) with
    | .error reason => return .error (.search reason)
    | .ok [] => return .error (.userNotFound username)
    | .ok (entry :: _) => return .ok entry.dn

def authenticateLdap (userDn password : String) : Action (Except LdapError Unit) :=
  connectForAuth config userDn password

def authenticate (username password : String) : Action Bool := do
  match ← findUser config username with
  | .error _ => return false
  | .ok userDn =>
    match ← authenticateLdap config userDn password with
    | .ok () => return true
    | .error _ => return false

end Handler

structure World where
  health : AList fun _ : String => ServerHealthInfo
  /-- The names and passwords of the binds that succeeded, the latest first. -/
  bound : List (String × String)

def World.record (change : ServerHealthInfo → ServerHealthInfo) (url : String) (world : World) : World :=
  { world with health := world.health.insert url (change ((world.health.lookup url).getD .default)) }

/-- Connections and requests may fail at any time. An answered search gives the
matching entries in some order; a text that is no filter is not sent. -/
def Performs (config : LdapConfig) (directory : Ldap.Directory) : Program.Semantics Effect World
  | _, .acquirePermit, world, answer, after => after = world ∧ (answer = .ok () → 0 < config.maxConnections)
  | _, .serverHealth url, world, answer, after => answer = world.health.lookup url ∧ after = world
  | _, .recordSuccess url, world, _, after => after = world.record .succeeded url
  | _, .recordFailure url, world, _, after => after = world.record .failed url
  | _, .connect _, world, _, after => after = world
  | _, .simpleBind dn password, world, answer, after =>
    match answer with
    | .error _ => after = world
    | .ok (.error _) => directory.binds dn password = false ∧ after = world
    | .ok (.ok ()) => directory.binds dn password = true ∧ after = { world with bound := (dn, password) :: world.bound }
  | _, .search baseDn text, world, answer, after => after = world ∧ ∀ found, answer = .ok found →
      ∃ filter, Ldap.parse text = some filter ∧ found.Perm (directory.matching baseDn filter)

end LdapAuthHandler

end UsgRadius
