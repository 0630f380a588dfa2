import UsgRadius.Data.Method
import UsgRadius.Eap.Packet

namespace UsgRadius.Eap

open Data Method

/-- The three flag bits; `from_u8` masks the others away. -/
structure TlsFlags where
  lengthIncluded : Bool
  moreFragments : Bool
  start : Bool
deriving DecidableEq

namespace TlsFlags

def fromU8 (value : UInt8) : TlsFlags where
  lengthIncluded := value &&& 0x80 != 0
  moreFragments := value &&& 0x40 != 0
  start := value &&& 0x20 != 0

def asU8 (flags : TlsFlags) : UInt8 :=
  (if flags.lengthIncluded then 0x80 else 0) ||| (if flags.moreFragments then 0x40 else 0) |||
    (if flags.start then 0x20 else 0)

end TlsFlags

structure EapTlsPacket where
  flags : TlsFlags
  tlsMessageLength : Option UInt32
  tlsData : Octets
deriving DecidableEq

namespace EapTlsPacket

def startPacket : EapTlsPacket where
  flags := { lengthIncluded := false, moreFragments := false, start := true }
  tlsMessageLength := none
  tlsData := []

def ack : EapTlsPacket where
  flags := { lengthIncluded := false, moreFragments := false, start := false }
  tlsMessageLength := none
  tlsData := []

def fromEapData (data : Octets) : Except EapError EapTlsPacket :=
  match data with
  | [] => .error (.packetTooShort 1 0)
  | octet :: rest =>
    let flags := TlsFlags.fromU8 octet
    if flags.lengthIncluded then
      if data.length < 5 then
        .error (.packetTooShort 5 data.length)
      else
        .ok { flags, tlsMessageLength := some (UInt32.ofNat (fromBe (rest.take 4))), tlsData := rest.drop 4 }
    else
      .ok { flags, tlsMessageLength := none, tlsData := rest }

def toEapData (packet : EapTlsPacket) : Octets :=
  packet.flags.asU8 ::
    ((packet.tlsMessageLength.elim [] fun length => toBe 4 length.toNat) ++ packet.tlsData)

def toEapRequest (packet : EapTlsPacket) (identifier : UInt8) : EapPacket where
  code := .request
  identifier
  eapType := some .tls
  data := packet.toEapData

end EapTlsPacket

structure TlsFragmentAssembler where
  expectedLength : Option UInt32
  fragments : Octets
deriving DecidableEq

namespace TlsFragmentAssembler

def maxMessageLength : Nat := 64 * 1024

def new : TlsFragmentAssembler where
  expectedLength := none
  fragments := []

/-- How long the message with this fragment may grow. -/
def limit (assembler : TlsFragmentAssembler) (packet : EapTlsPacket) (first : Bool) : Nat :=
  match assembler.expectedLength with
  | some expected => expected.toNat
  | none =>
    if first && packet.flags.lengthIncluded then (packet.tlsMessageLength.getD 0).toNat
    else maxMessageLength

def checkFragment (assembler : TlsFragmentAssembler) (packet : EapTlsPacket) : Except EapError Unit :=
  let first := assembler.fragments.isEmpty && assembler.expectedLength.isNone
  let announced := (packet.tlsMessageLength.getD 0).toNat
  let total := assembler.fragments.length + packet.tlsData.length
  if packet.flags.moreFragments && packet.tlsData.isEmpty then
    .error (.invalidLength 0)
  else if first && packet.flags.moreFragments && !packet.flags.lengthIncluded then
    .error (.invalidLength 0)
  else if packet.flags.lengthIncluded && (announced == 0 || decide (announced > maxMessageLength)) then
    .error (.invalidLength announced)
  else if total > assembler.limit packet first then
    .error (.invalidLength total)
  else
    .ok ()

/-- The length announced by the first packet with the L flag is kept, and the
data is appended. -/
def buffer (packet : EapTlsPacket) (assembler : TlsFragmentAssembler) : TlsFragmentAssembler where
  expectedLength :=
    if packet.flags.lengthIncluded && assembler.expectedLength.isNone then packet.tlsMessageLength
    else assembler.expectedLength
  fragments := assembler.fragments ++ packet.tlsData

variable {Event : Type}

def addFragment (packet : EapTlsPacket) : Method TlsFragmentAssembler Event EapError (Option Octets) := do
  match (← self).checkFragment packet with
  | .error reason => do
    update fun _ => new
    fail reason
  | .ok () => do
    update (buffer packet)
    if packet.flags.moreFragments then
      return none
    else do
      let complete ← self
      update fun _ => new
      match complete.expectedLength with
      | some expected =>
        if complete.fragments.length ≠ expected.toNat then fail (.invalidLength complete.fragments.length)
        else return some complete.fragments
      | none => return some complete.fragments

end TlsFragmentAssembler

inductive LengthFlagPolicy where
  | always
  | fragmentedOnly
deriving DecidableEq

/-- The fragments of `rest`, the part of the message that is still to be sent.
Only the first one can be longer by the length field. -/
def fragmentsFrom (total : UInt32) (lengthOnFirst : Bool) (firstSize subsequentSize : Nat) :
    (count : Nat) → (isFirst : Bool) → (rest : Octets) → List EapTlsPacket
  | 0, _, _ => []
  | _ + 1, _, [] => []
  | count + 1, isFirst, octet :: more =>
    let rest := octet :: more
    let size := min (if isFirst then firstSize else subsequentSize) rest.length
    let announces := isFirst && lengthOnFirst
    { flags := { lengthIncluded := announces, moreFragments := decide (size < rest.length), start := false }
      tlsMessageLength := if announces then some total else none
      tlsData := rest.take size } ::
      fragmentsFrom total lengthOnFirst firstSize subsequentSize count false (rest.drop size)

/-- With a maximum size of at least 6 every fragment takes at least one octet,
so there are no more fragments than octets. (The program keeps the size at 16
or more.) -/
def fragmentTlsMessageWith (tlsData : Octets) (maxFragmentSize : Nat) (policy : LengthFlagPolicy) :
    List EapTlsPacket :=
  let subsequentSize := maxFragmentSize - 1
  let lengthOnFirst :=
    match policy with
    | .always => true
    | .fragmentedOnly => decide (tlsData.length > subsequentSize)
  let firstSize := if lengthOnFirst then maxFragmentSize - 5 else subsequentSize
  fragmentsFrom (UInt32.ofNat tlsData.length) lengthOnFirst firstSize subsequentSize tlsData.length true tlsData

inductive TlsHandshakeState where
  | initial
  | started
  | handshaking
  | certificateExchange
  | keyExchange
  | complete
  | failed
deriving DecidableEq

structure EapTlsContext where
  handshakeState : TlsHandshakeState
  assembler : TlsFragmentAssembler
  outgoingFragments : List EapTlsPacket
  currentFragmentIndex : Nat
  lengthFlagPolicy : LengthFlagPolicy
  msk : Option (Block 64)
  emsk : Option (Block 64)
deriving DecidableEq

namespace EapTlsContext

def new : EapTlsContext where
  handshakeState := .initial
  assembler := .new
  outgoingFragments := []
  currentFragmentIndex := 0
  lengthFlagPolicy := .always
  msk := none
  emsk := none

def hasPendingFragments (context : EapTlsContext) : Bool :=
  decide (context.currentFragmentIndex < context.outgoingFragments.length)

def getNextFragment (context : EapTlsContext) : Option EapTlsPacket × EapTlsContext :=
  match context.outgoingFragments[context.currentFragmentIndex]? with
  | some fragment => (some fragment, { context with currentFragmentIndex := context.currentFragmentIndex + 1 })
  | none => (none, context)

def queueTlsData (tlsData : Octets) (maxFragmentSize : Nat) (context : EapTlsContext) : EapTlsContext :=
  { context with
    outgoingFragments := fragmentTlsMessageWith tlsData maxFragmentSize context.lengthFlagPolicy
    currentFragmentIndex := 0 }

variable {Event : Type}

def processIncoming (packet : EapTlsPacket) : Method EapTlsContext Event EapError (Option Octets) := do
  if packet.flags.start then do
    update fun context => { context with handshakeState := .started, assembler := .new }
    return none
  else
    within assembler (fun assembler context => { context with assembler })
      (TlsFragmentAssembler.addFragment packet : Method _ Empty _ _)

end EapTlsContext
end UsgRadius.Eap
