import UsgRadius.Data.Interleaving
import UsgRadius.Proxy.Retry

namespace UsgRadius.Proxy

open Data

/-! The tasks that share the proxy's state, and what each may do to a
Proxy-State key. -/

inductive Task where
  | forward (request : Packet) (source : SocketAddr) (homeServer : HomeServer) (clientSecret : Octets)
  | respond (response : Packet) (origin : ResponseOrigin)
  | retry
  | cleanup

namespace Task

def isRetry : Task → Bool
  | retry => true
  | _ => false

def isRespond : Task → Bool
  | respond _ _ => true
  | _ => false

end Task

/-- The settings of the background tasks. -/
structure Settings where
  config : RetryConfig
  timeout : Nat
  ttl : Nat

/-- Requests and responses are handled as they come, each by a task of its own;
there is one retry manager, which ends a tick before it starts the next. -/
def tasks (digests : Digests) (settings : Settings) : System Effect Fault Task World where
  start
    | .forward request source homeServer clientSecret => do
      let _ ← forwardRequest digests request source homeServer clientSecret
      return ()
    | .respond response origin => handleResponseFrom digests response origin
    | .retry => retryTick digests settings.config settings.timeout
    | .cleanup => cleanupTick settings.ttl
  mayStart := fun running task => !task.isRetry || running.all (!·.isRetry)
  step := Performs True

inductive Phase where
  | forwarding
  | holding (key : ProxyStateKey)
  | responding
  | replying (key : ProxyStateKey)
  | retrying
  | removing (key : ProxyStateKey)
  | cleaning
  | idle
deriving DecidableEq

def Task.first : Task → Phase
  | .forward _ _ _ _ => .forwarding
  | .respond _ _ => .responding
  | .retry => .retrying
  | .cleanup => .cleaning

def Effect.Silent : (Answer : Type) → Effect Answer → Prop
  | _, .nextProxyState => False
  | _, .cacheInsert _ => False
  | _, .cacheRemove _ => False
  | _, .nasSend _ => False
  | _, _ => True

def Phase.permits : Phase → (Answer : Type) → Effect Answer → Prop
  | .forwarding, _, .nextProxyState => True
  | .holding key, _, .cacheInsert entry => entry.proxyState = key
  | .responding, _, .cacheRemove _ => True
  | .replying key, _, .nasSend reply => reply.proxyState = key
  | .retrying, _, .cacheInsert _ => True
  | .retrying, _, .nasSend _ => True
  | .cleaning, _, .cacheRemove _ => True
  | .removing key, _, .cacheRemove removed => removed = key
  | .removing _, _, _ => False
  | _, Answer, effect => Effect.Silent Answer effect

def Phase.advance : Phase → (Answer : Type) → Effect Answer → Answer → Phase
  | .forwarding, _, .nextProxyState, key => .holding key
  | .holding _, _, .cacheInsert _, _ => .idle
  | .responding, _, .cacheRemove key, some _ => .replying key
  | .responding, _, .cacheRemove _, none => .idle
  | .replying _, _, .nasSend _, _ => .idle
  | .retrying, _, .nasSend reply, true => .removing reply.proxyState
  | .removing _, _, .cacheRemove _, _ => .retrying
  | phase, _, _, _ => phase

/-- A retry that has sent its reject does not end before it has removed the entry. -/
def Phase.rests : Phase → Prop
  | .removing _ => False
  | _ => True

def lifecycle : Protocol Effect Phase where
  permits := Phase.permits
  advance := Phase.advance
  rests := Phase.rests

end UsgRadius.Proxy
