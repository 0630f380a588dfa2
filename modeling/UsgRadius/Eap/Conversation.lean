import UsgRadius.Eap.Handler
import UsgRadius.Eap.TeapRefinement

namespace UsgRadius.Eap

open Data Method

/-! What the journal of a handler says about one conversation, and how much of
the handler's state belongs to it. -/

namespace Origin

/-- Every part fits the two octets that hold its length. -/
def Fits (origin : Origin) : Prop :=
  ∀ part ∈ [origin.client, origin.nasIpAddress, origin.nasIpv6Address, origin.nasIdentifier, origin.userName],
    ∀ value ∈ part, value.length < 65536

theorem put_append_inj {tag : UInt8} {left right : Option Octets} {leftRest rightRest : Octets}
    (leftFits : ∀ value ∈ left, value.length < 65536) (rightFits : ∀ value ∈ right, value.length < 65536)
    (same : put tag left ++ leftRest = put tag right ++ rightRest) : left = right ∧ leftRest = rightRest := by
  cases left with
  | none =>
    cases right with
    | none => simpa [put] using same
    | some value => simp [put] at same
  | some leftValue =>
    cases right with
    | none => simp [put] at same
    | some rightValue =>
      simp only [put, List.cons_append, List.append_assoc, List.cons.injEq, true_and] at same
      obtain ⟨sameLength, sameRest⟩ := List.append_inj same (by simp)
      have equal : leftValue.length = rightValue.length :=
        toBe_inj (by simpa using leftFits leftValue rfl) (by simpa using rightFits rightValue rfl) sameLength
      obtain ⟨sameValue, sameTail⟩ := List.append_inj sameRest equal
      exact ⟨congrArg some sameValue, sameTail⟩

theorem encode_inj {left right : Origin} (leftFits : left.Fits) (rightFits : right.Fits)
    (same : left.encode = right.encode) : left = right := by
  simp only [Fits, List.mem_cons, List.not_mem_nil, or_false, forall_eq_or_imp, forall_eq] at leftFits rightFits
  have extended : left.encode ++ [] = right.encode ++ [] := by rw [same]
  simp only [encode, List.append_assoc] at extended
  obtain ⟨client, rest⟩ := put_append_inj leftFits.1 rightFits.1 extended
  obtain ⟨nasIpAddress, rest⟩ := put_append_inj leftFits.2.1 rightFits.2.1 rest
  obtain ⟨nasIpv6Address, rest⟩ := put_append_inj leftFits.2.2.1 rightFits.2.2.1 rest
  obtain ⟨nasIdentifier, rest⟩ := put_append_inj leftFits.2.2.2.1 rightFits.2.2.2.1 rest
  obtain ⟨userName, _⟩ := put_append_inj leftFits.2.2.2.2 rightFits.2.2.2.2 rest
  cases left
  cases right
  simp only [mk.injEq]
  exact ⟨client, nasIpAddress, nasIpv6Address, nasIdentifier, userName⟩

def username (origin : Origin) : String :=
  (origin.userName.bind fromUtf8).getD ""

end Origin

namespace Arrival

variable (arrival : Arrival)

theorem origin_username : arrival.origin.username = arrival.username := by
  simp only [Origin.username, origin, Origin.ofRequest, username, Option.bind_map]
  rfl

theorem value_fits {attrType : UInt8} {value : Octets}
    (found : value ∈ (arrival.request.findAttribute attrType).map Attribute.value) : value.length < 65536 := by
  obtain ⟨attr, present, rfl⟩ := Option.mem_map.mp found
  have fits : attr.value.length ≤ Attribute.maxValueLength :=
    arrival.fits attr (List.mem_of_find?_eq_some present)
  simp only [Attribute.maxValueLength] at fits
  omega

theorem origin_fits : arrival.origin.Fits := by
  have client : ∀ value ∈ arrival.origin.client, value.length < 65536 := by
    intro value found
    obtain ⟨address, _, rfl⟩ := Option.mem_map.mp found
    cases address.toCanonical <;> simp [IpAddr.octets]
  simp only [Origin.Fits, List.mem_cons, List.not_mem_nil, or_false, forall_eq_or_imp, forall_eq]
  exact ⟨client, fun _ => arrival.value_fits, fun _ => arrival.value_fits, fun _ => arrival.value_fits,
    fun _ => arrival.value_fits⟩

end Arrival

theorem octets_inj {left right : IpAddr} (same : left.octets = right.octets) : left = right := by
  have sizes := congrArg List.length same
  cases left <;> cases right
  · exact congrArg IpAddr.v4 (Block.octets_inj.mp same)
  · simp [IpAddr.octets] at sizes
  · simp [IpAddr.octets] at sizes
  · exact congrArg IpAddr.v6 (Block.octets_inj.mp same)

/-- A binding tells what it is made from, and a State the session it names. -/
theorem EapAuthHandler.conversationBinding_unambiguous :
    (∀ leftData rightData left right, Packet.decode leftData = .ok left → Packet.decode rightData = .ok right →
      ∀ leftClient rightClient, conversationBinding left leftClient = conversationBinding right rightClient →
        leftClient.map IpAddr.toCanonical = rightClient.map IpAddr.toCanonical ∧
        ∀ attrType ∈ [AttributeType.nasIpAddress, .nasIpv6Address, .nasIdentifier, .userName],
          (left.findAttribute attrType.asU8).map Attribute.value =
            (right.findAttribute attrType.asU8).map Attribute.value) ∧
    ∀ (drawn : Block stateLength) (id : SessionId), sessionIdForState (some drawn.octets) = some id →
      sessionIdForState (some (stateFor id)) = some id ∧
        ∀ state, sessionIdForState (some state) = some id → state = stateFor id := by
  refine ⟨?_, ?_⟩
  · intro leftData rightData left right leftDecoded rightDecoded leftClient rightClient same
    have leftFits := (Packet.decode_eq_ok.mp leftDecoded).1.fits
    have rightFits := (Packet.decode_eq_ok.mp rightDecoded).1.fits
    have origins := Origin.encode_inj (Arrival.origin_fits ⟨left, leftClient, leftFits⟩)
      (Arrival.origin_fits ⟨right, rightClient, rightFits⟩) same
    simp only [Arrival.origin, Origin.ofRequest, Origin.mk.injEq] at origins
    obtain ⟨clients, attributes⟩ := origins
    refine ⟨?_, by simpa using attributes⟩
    apply Option.map_injective fun _ _ => octets_inj
    simpa [Function.comp_def] using clients
  · intro drawn id named
    have spelt : Hex.encode drawn.octets = id := by simpa [sessionIdForState] using named
    subst spelt
    rw [stateFor, Hex.octets_encode]
    refine ⟨named, fun state other => ?_⟩
    rw [sessionIdForState] at other
    split at other
    · exact Hex.encode_inj (Option.some.inj other)
    · cases other

section Journals

variable {Connection : Type} {id : SessionId} {event : Event Connection}

/-- The conversation an event belongs to. -/
def Event.session : Event Connection → Option SessionId
  | .drawn _ => none
  | .started id _ => some id
  | .issued id _ => some id
  | .claimed id _ _ => some id
  | .renegotiated id => some id
  | .fed id => some id
  | .examined id _ _ => some id
  | .keyed id _ => some id
  | .released id _ => some id
  | .answered arrival (.accept _ _) => EapAuthHandler.sessionIdForState arrival.state
  | .answered _ _ => none

def conversation (id : SessionId) (journal : List (Event Connection)) : List (Event Connection) :=
  journal.filter fun event => event.session = some id

/-- The Identifier a Response has to carry: that of the latest Request, until a
Response to it has been taken. -/
def outstanding : List (Event Connection) → Option UInt8
  | [] => none
  | .issued _ identifier :: _ => some identifier
  | .claimed _ _ _ :: _ => none
  | .started _ _ :: _ => none
  | _ :: past => outstanding past

/-- The Response that was taken, and in which request, until the next Request goes
out or an Access-Accept is given. -/
def inHand : List (Event Connection) → Option (Arrival × UInt8)
  | [] => none
  | .claimed _ arrival identifier :: _ => some (arrival, identifier)
  | .issued _ _ :: _ => none
  | .answered _ _ :: _ => none
  | _ :: past => inHand past

theorem mem_conversation {journal : List (Event Connection)} (own : event.session = some id) :
    event ∈ conversation id journal ↔ event ∈ journal := by
  simp [conversation, own]

theorem conversation_own (own : event.session = some id) (journal : List (Event Connection)) :
    conversation id (event :: journal) = event :: conversation id journal := by
  simp [conversation, own]

theorem conversation_other (other : event.session ≠ some id) (journal : List (Event Connection)) :
    conversation id (event :: journal) = conversation id journal := by
  simp [conversation, other]

end Journals

/-! ## Servers that have not processed anything -/

namespace EapTlsServer

variable {Connection : Type} {engine : TlsEngine Connection}

/-- The handshake has not begun, as the state of the context tells. -/
def notBegun (server : EapTlsServer Connection) : Bool :=
  server.context.handshakeState == .initial || server.context.handshakeState == .started

def untouched (server : EapTlsServer Connection) : Bool :=
  server.notBegun && server.context.assembler.fragments.isEmpty

def KeyedBy (engine : TlsEngine Connection) (server : EapTlsServer Connection) (msk : Block 64) : Prop :=
  ∃ connection material, server.connection = some connection ∧ engine.isHandshaking connection = false ∧
    engine.exportKeyingMaterial connection (exporterInput (server.isTls13 engine)).1
      (exporterInput (server.isTls13 engine)).2 128 = .ok material ∧
    msk = (splitKeys material).1 ∧ server.getMsk = some msk

theorem extractKeys_spec (engine : TlsEngine Connection) (server : EapTlsServer Connection) :
    (extractKeys engine : Method _ Empty _ _).wp (fun result _ after =>
      after.commitmentSent = server.commitmentSent ∧ (result = .ok () → ∃ msk, KeyedBy engine after msk)) [] server := by
  simp only [extractKeys, wp_self_bind]
  split
  · simp
  · rename_i connection found
    split
    · simp
    · rename_i complete
      cases made : engine.exportKeyingMaterial connection (exporterInput (server.isTls13 engine)).1
          (exporterInput (server.isTls13 engine)).2 128 with
      | error reason => simp [wp_check_bind, Except.mapError]
      | ok material =>
        simp only [wp_check_bind, Except.mapError, wp_update, reduceCtorEq, false_implies,
          implies_true, and_true]
        intro given same
        cases same
        exact ⟨trivial, fun _ => ⟨_, connection, material, found, by simpa using complete, made, rfl, rfl⟩⟩

theorem onConnection_keeps {Value Event : Type} (missing : EapError) (wrap : String → EapError)
    (operation : Connection → Except String Value × Connection) (server : EapTlsServer Connection)
    (journal : List Event) :
    (onConnection missing wrap operation : Method _ Event _ _).wp (fun _ _ after =>
      after.context = server.context ∧ after.commitmentSent = server.commitmentSent) journal server := by
  simp only [onConnection, wp_call]
  split <;> exact ⟨rfl, rfl⟩

theorem processIncoming_none {context : EapTlsContext} {packet : EapTlsPacket} (first : packet.flags.start = false) :
    (EapTlsContext.processIncoming packet : Method _ Empty _ _).wp (fun result _ after =>
      result = .ok none → after.assembler.fragments ≠ []) [] context := by
  simp only [EapTlsContext.processIncoming, first, Bool.false_eq_true, if_false, wp_within,
    TlsFragmentAssembler.addFragment, wp_self_bind]
  cases checked : context.assembler.checkFragment packet with
  | error reason => simp
  | ok _ =>
    simp only [wp_update_bind]
    split
    · rename_i more
      simp only [wp_pure]
      intro _ empty
      have bare : packet.tlsData = [] := (List.append_eq_nil_iff.mp empty).2
      simp [TlsFragmentAssembler.checkFragment, more, bare] at checked
    · simp only [wp_self_bind, wp_update_bind]
      split
      · split <;> simp
      · simp

/-- What has been processed leaves a trace: a fragment is buffered, or the
handshake has begun. -/
theorem processClientMessage_touched (engine : TlsEngine Connection) (server : EapTlsServer Connection)
    (packet : EapTlsPacket) :
    (processClientMessage engine packet : Method _ Empty _ _).wp (fun result _ after =>
      after.commitmentSent = server.commitmentSent ∧ (result.isOk = true → after.untouched = false)) [] server := by
  unfold processClientMessage
  split
  · simp [Except.isOk, Except.toBool]
  · rename_i first
    rw [wp_bind, onContext, wp_within]
    refine wp_mono (processIncoming_none (by simpa using first)) ?_
    intro result _ context buffered
    cases result with
    | error reason => exact ⟨rfl, fun impossible => by cases impossible⟩
    | ok incoming =>
      cases incoming with
      | none =>
        have kept := buffered rfl
        simp [untouched, kept]
      | some tlsData =>
        refine wp_bind_of (onConnection_keeps _ _ _ _ _) ?_ ?_
        · intro _ _ read kept
          refine wp_bind_of (onConnection_keeps _ _ _ _ _) ?_ ?_
          · intro _ _ processed keptAgain
            simp only [wp_update_bind]
            refine wp_bind_of (onConnection_keeps _ _ _ _ _) ?_ ?_
            · intro response _ written keptLast
              simp only [wp_pure]
              refine ⟨keptLast.2.trans (keptAgain.2.trans kept.2), fun _ => ?_⟩
              simp only [untouched, notBegun, keptLast.1]
              split <;> rfl
            · intro _ _ _ keptLast
              exact ⟨keptLast.2.trans (keptAgain.2.trans kept.2), fun impossible => by cases impossible⟩
          · intro _ _ _ keptAgain
            exact ⟨keptAgain.2.trans kept.2, fun impossible => by cases impossible⟩
        · intro _ _ _ kept
          exact ⟨kept.2, fun impossible => by cases impossible⟩

theorem writeCommitmentRecord_keeps (engine : TlsEngine Connection) (server : EapTlsServer Connection) :
    (writeCommitmentRecord engine : Method _ Empty _ _).wp (fun _ _ after => after.context = server.context) []
      server := by
  simp only [writeCommitmentRecord, wp_self_bind]
  split
  · simp
  · refine wp_bind_of (onConnection_keeps _ _ _ _ _) ?_ fun _ _ _ kept => kept.1
    intro _ _ queued kept
    refine wp_bind_of (onConnection_keeps _ _ _ _ _) ?_ fun _ _ _ keptToo => keptToo.1.trans kept.1
    intro record _ written keptToo
    split
    · simpa using keptToo.1.trans kept.1
    · simpa using keptToo.1.trans kept.1

@[simp] theorem queueOutgoingTls_untouched (tlsData : Octets) (size : Nat) (server : EapTlsServer Connection) :
    (server.queueOutgoingTls tlsData size).untouched = server.untouched := rfl

@[simp] theorem nextOutgoingFragment_untouched (server : EapTlsServer Connection) :
    server.nextOutgoingFragment.2.untouched = server.untouched := by
  simp only [untouched, notBegun, nextOutgoingFragment, EapTlsContext.getNextFragment]
  split <;> rfl

end EapTlsServer

namespace EapTeapServer

variable {Connection Handler : Type} {engine : TlsEngine Connection} {hmacs : Hmacs}
  {inner : InnerMethodHandler Handler}

theorem processClientMessage_versioned (engine : TlsEngine Connection) (hmacs : Hmacs)
    (inner : InnerMethodHandler Handler) (server : EapTeapServer Connection Handler) (delivery : Delivery) :
    (processClientMessage engine hmacs inner delivery).wp (fun result _ after =>
      result.isOk = true → after.peerVersion.isSome = true) [] server := by
  have obeys : Obeys engine hmacs inner (processClientMessage engine hmacs inner delivery) _ [] server :=
    processClientMessage_obeys delivery
  exact obeys.ends

end EapTeapServer

end UsgRadius.Eap
