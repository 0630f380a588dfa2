import UsgRadius.Packet.Auth

namespace UsgRadius

open Data

inductive IpAddr where
  | v4 (octets : Block 4)
  | v6 (octets : Block 16)
deriving DecidableEq

def IpAddr.ofOctets (first second third fourth : UInt8) : IpAddr :=
  .v4 ⟨[first, second, third, fourth], rfl⟩

structure SocketAddr where
  ip : IpAddr
  port : UInt16
deriving DecidableEq

namespace Proxy

abbrev ProxyStateKey := Block 16

inductive HomeServerTransport where
  | udp
  | radsec
deriving DecidableEq

/-- An `Arc<HomeServer>`: what never changes about the server, and `arc`, which
allocation it is. Two handles are `Arc::ptr_eq` when their `arc` agrees. -/
structure HomeServer where
  arc : Nat
  name : String
  address : SocketAddr
  secret : Octets
  transport : HomeServerTransport
deriving DecidableEq

structure ProxyCacheEntry where
  originalRequest : Packet
  originalSource : SocketAddr
  homeServer : HomeServer
  sentAt : Nat
  retryCount : UInt8
  proxyState : ProxyStateKey
  clientSecret : Octets
  sentOnConnection : Option UInt64
deriving DecidableEq

inductive ProxyError where
  | io
  | packet (error : PacketError)
  | configuration (message : String)
  | cacheFull (entries : Nat)
  | correlationFailed
  | proxyLoop (count limit : Nat)
  | invalidResponseAuthenticator
  | invalidUserPassword (error : Auth.PasswordError)
  | linkDown (server : String)
  | linkBusy (server : String)
deriving DecidableEq

/-- How a function fails: with an error it returns, or by a panic. -/
inductive Fault where
  | error (error : ProxyError)
  | panic (panic : Panic)
deriving DecidableEq

def liftPacket {Value : Type} : Except PacketError Value → Except ProxyError Value
  | .ok value => .ok value
  | .error reason => .error (.packet reason)

def liftError {Value : Type} : Except ProxyError Value → Except Fault Value
  | .ok value => .ok value
  | .error reason => .error (.error reason)

def liftPanic {Value : Type} : Except Panic Value → Except Fault Value
  | .ok value => .ok value
  | .error panic => .error (.panic panic)

section Lifting

variable {Value : Type} {value : Value} {result : Except ProxyError Value}

@[simp] theorem liftError_ok : liftError (.ok value) = .ok value := rfl

@[simp] theorem liftPanic_ok : liftPanic (.ok value) = .ok value := rfl

@[simp] theorem liftError_eq_error {fault : Fault} :
    liftError result = .error fault ↔ ∃ reason, result = .error reason ∧ fault = .error reason := by
  cases result <;> simp [liftError, eq_comm]

@[simp] theorem liftPacket_eq_ok {result : Except PacketError Value} :
    liftPacket result = .ok value ↔ result = .ok value := by
  cases result <;> simp [liftPacket]

@[simp] theorem liftError_eq_ok : liftError result = .ok value ↔ result = .ok value := by
  cases result <;> simp [liftError]

@[simp] theorem liftPanic_eq_ok {result : Except Panic Value} : liftPanic result = .ok value ↔ result = .ok value := by
  cases result <;> simp [liftPanic]

end Lifting

end Proxy

end UsgRadius
