import UsgRadius.Data.Maps
import UsgRadius.Data.Program
import UsgRadius.Server.Replies

namespace UsgRadius.Radsec

open Data Program Auth

/-! CoA and Disconnect requests on the RadSec connection of a NAS: a request goes
out under a free Identifier, and its reply goes back to the caller that waits for it. -/

/-- `"radsec"`. -/
def radsecSecret : Octets := [114, 97, 100, 115, 101, 99]

structure CoaJob where
  request : Packet
  /-- The caller at the other end of the channel for the reply. -/
  reply : Nat
deriving DecidableEq

structure Pending where
  reply : Nat
  requestAuthenticator : Block 16
deriving DecidableEq

abbrev Waiters := AList fun _ : UInt8 => Pending

/-- What the task of a connection keeps for its own requests. -/
structure Connection where
  pending : Waiters
  nextId : UInt8

def Connection.new : Connection := ⟨∅, 0⟩

/-- The connection ends, and the waiting callers with it. -/
inductive ConnectionEnd where
  | io
  | panicked (reason : Panic)
deriving DecidableEq

inductive ConnectionStep : Type → Type
  | isClosed (caller : Nat) : ConnectionStep Bool
  | reply (caller : Nat) (packet : Packet) : ConnectionStep Unit
  /-- The channel for the reply is dropped without one. -/
  | hangUp (caller : Nat) : ConnectionStep Unit
  /-- `write_all` and `flush`, and whether both succeeded. What is written for the
  job of a caller carries the caller's number, for the observer only. -/
  | write (caller : Option Nat) (bytes : Octets) : ConnectionStep Bool
  | processRequest (frame : Octets) : ConnectionStep (Except ServerError (Option Octets))

abbrev Action := Program ConnectionStep ConnectionEnd

/-- `pending.retain(|_, p| !p.reply.is_closed())`. -/
def reclaim : List UInt8 → Waiters → Action Waiters
  | [], pending => return pending
  | id :: rest, pending =>
    match pending.lookup id with
    | none => reclaim rest pending
    | some entry => do
      if ← ask (.isClosed entry.reply) then
        reclaim rest (pending.erase id)
      else
        reclaim rest pending

/-- The loop of `alloc_identifier`, and the `next_id` it leaves. -/
def findFree (pending : Waiters) : Nat → UInt8 → Option UInt8 × UInt8
  | 0, nextId => (none, nextId)
  | count + 1, nextId => if nextId ∈ pending then findFree pending count (nextId + 1) else (some nextId, nextId + 1)

def allocIdentifier (connection : Connection) : Action (Option UInt8 × Connection) := do
  let pending ← reclaim connection.pending.keys connection.pending
  let slot := findFree pending 256 connection.nextId
  return (slot.1, ⟨pending, slot.2⟩)

def writeOut (caller : Option Nat) (bytes : Octets) : Action Unit := do
  if ← ask (.write caller bytes) then
    return ()
  else
    fail .io

variable (digests : Digests)

def coaRequest (job : CoaJob) (id : UInt8) : Except Panic Packet := do
  let request := { job.request with identifier := id, authenticator := .zero 16 }
  let authenticator ← calculateAccountingRequestAuthenticator digests request radsecSecret
  return { request with authenticator }

def sendCoa (job : CoaJob) (connection : Connection) : Action Connection := do
  let (found, connection) ← allocIdentifier connection
  match found with
  | none => do
    ask (.hangUp job.reply)
    return connection
  | some id => do
    let request ← check ((coaRequest digests job id).mapError .panicked)
    match request.encode with
    | .ok bytes => do
      let pending := connection.pending.insert id ⟨job.reply, request.authenticator⟩
      writeOut (some job.reply) bytes
      return { connection with pending }
    | .error _ => do
      ask (.hangUp job.reply)
      return connection

def isReply : Code → Bool
  | .coaAck | .coaNak | .disconnectAck | .disconnectNak => true
  | _ => false

/-- A reply is believed only if it is signed for the request that waits under its Identifier. -/
def routeReply (frame : Octets) (id : UInt8) (connection : Connection) : Action Connection :=
  match Packet.decode frame with
  | .error _ => return connection
  | .ok packet =>
    match connection.pending.lookup id with
    | none => return connection
    | some entry => do
      let verified ← check ((verifyResponseAuthenticator digests packet entry.requestAuthenticator
        radsecSecret).mapError .panicked)
      if verified then do
        ask (.reply entry.reply packet)
        return { connection with pending := connection.pending.erase id }
      else
        return connection

def dispatchInbound (frame : Octets) (connection : Connection) : Action Connection := do
  let code := frame.head?.bind Code.fromU8
  if code.any isReply then
    match frame.tail.head? with
    | none => fail (.panicked ⟨"index out of bounds"⟩)
    | some id => routeReply digests frame id connection
  else do
    match ← ask (.processRequest frame) with
    | .ok (some response) => do
      writeOut none response
      return connection
    | .ok none => return connection
    | .error _ => return connection

/-- What the connection's loop takes up next. -/
inductive Input where
  | frame (frame : Octets)
  | job (job : CoaJob)
deriving DecidableEq

def take (input : Input) (connection : Connection) : Action Connection :=
  match input with
  | .frame frame => dispatchInbound digests frame connection
  | .job job => sendCoa digests job connection

def serve : List Input → Connection → Action Connection
  | [], connection => return connection
  | input :: rest, connection => do
    let connection ← take digests input connection
    serve rest connection

structure Callers where
  /-- Those whose receiver is gone: they have their reply, were hung up on, or timed out. -/
  gone : List Nat
  delivered : List (Nat × Packet)
  /-- What was written, each with the caller it was written for, if any. -/
  written : List (Option Nat × Octets)
deriving DecidableEq

namespace Callers

structure Ages (before after : Callers) : Prop where
  gone : before.gone ⊆ after.gone
  delivered : after.delivered = before.delivered
  written : after.written = before.written

def deliver (callers : Callers) (caller : Nat) (packet : Packet) : Callers :=
  if caller ∈ callers.gone then
    callers
  else
    { callers with gone := caller :: callers.gone, delivered := (caller, packet) :: callers.delivered }

def Acts : Semantics ConnectionStep Callers
  | _, .isClosed caller, callers, answer, after => answer = decide (caller ∈ callers.gone) ∧ after = callers
  | _, .reply caller packet, callers, _, after => after = callers.deliver caller packet
  | _, .hangUp caller, callers, _, after => after = { callers with gone := caller :: callers.gone }
  | _, .write caller bytes, callers, sent, after =>
    after = if sent then { callers with written := (caller, bytes) :: callers.written } else callers
  | _, .processRequest _, callers, _, after => after = callers

/-- Callers may time out before every step. -/
def Performs : Semantics ConnectionStep Callers := fun Answer effect before answer after =>
  ∃ between, before.Ages between ∧ Acts Answer effect between answer after

end Callers

end UsgRadius.Radsec
