import UsgRadius.Eap.EapTls

namespace UsgRadius.Eap

open Data Method TlsFragmentAssembler EapTlsPacket

/-! TLS messages in fragments: how a message is cut, and what the assembler makes
of any packets it is fed. -/

/-! ## One packet fed to the assembler -/

namespace TlsFragmentAssembler

def finished (complete : TlsFragmentAssembler) : Except EapError (Option Octets) :=
  match complete.expectedLength with
  | some expected =>
    if complete.fragments.length ≠ expected.toNat then .error (.invalidLength complete.fragments.length)
    else .ok (some complete.fragments)
  | none => .ok (some complete.fragments)

section Step

variable {Event : Type} {assembler : TlsFragmentAssembler} {packet : EapTlsPacket}

theorem addFragment_refused {reason : EapError} (refused : assembler.checkFragment packet = .error reason) :
    (addFragment packet : Method _ Event _ _).run assembler = ⟨.error reason, new, []⟩ := by
  simp only [addFragment, run_self_bind, refused, run_update_bind]
  rfl

theorem addFragment_more (checked : assembler.checkFragment packet = .ok ()) (more : packet.flags.moreFragments = true) :
    (addFragment packet : Method _ Event _ _).run assembler = ⟨.ok none, buffer packet assembler, []⟩ := by
  simp only [addFragment, run_self_bind, checked, run_update_bind, more]
  rfl

theorem addFragment_last (checked : assembler.checkFragment packet = .ok ()) (last : packet.flags.moreFragments = false) :
    (addFragment packet : Method _ Event _ _).run assembler = ⟨(buffer packet assembler).finished, new, []⟩ := by
  simp only [addFragment, run_self_bind, checked, run_update_bind, last, Bool.false_eq_true, if_false, finished]
  cases (buffer packet assembler).expectedLength with
  | none => rfl
  | some expected =>
    dsimp only
    split <;> rfl

theorem first_iff : (assembler.fragments.isEmpty && assembler.expectedLength.isNone) = true ↔ assembler = new := by
  obtain ⟨expectedLength, fragments⟩ := assembler
  simp [new, and_comm]

/-- A fragment that may be buffered. -/
structure Acceptable (assembler : TlsFragmentAssembler) (packet : EapTlsPacket) : Prop where
  progress : packet.flags.moreFragments = true → packet.tlsData ≠ []
  announced : packet.flags.moreFragments = true → assembler = new → packet.flags.lengthIncluded = true
  sane : packet.flags.lengthIncluded = true → 0 < (packet.tlsMessageLength.getD 0).toNat ∧
    (packet.tlsMessageLength.getD 0).toNat ≤ maxMessageLength
  room : assembler.fragments.length + packet.tlsData.length ≤
    assembler.limit packet (assembler.fragments.isEmpty && assembler.expectedLength.isNone)

theorem checkFragment_eq_ok : assembler.checkFragment packet = .ok () ↔ Acceptable assembler packet := by
  unfold checkFragment
  dsimp only
  split
  next stalled =>
    refine ⟨nofun, fun fine => ?_⟩
    simp only [Bool.and_eq_true, List.isEmpty_iff] at stalled
    exact absurd stalled.2 (fine.progress stalled.1)
  next progress =>
    split
    next unannounced =>
      refine ⟨nofun, fun fine => ?_⟩
      rw [Bool.and_eq_true, Bool.and_eq_true, first_iff, Bool.not_eq_true'] at unannounced
      obtain ⟨⟨first, more⟩, missing⟩ := unannounced
      rw [fine.announced more first] at missing
      cases missing
    next announced =>
      split
      next absurd =>
        refine ⟨nofun, fun fine => ?_⟩
        simp only [Bool.and_eq_true, Bool.or_eq_true, beq_iff_eq, decide_eq_true_iff] at absurd
        have sane := fine.sane absurd.1
        omega
      next sane =>
        split
        next long => exact ⟨nofun, fun fine => by have room := fine.room; omega⟩
        next room =>
          refine ⟨fun _ => ⟨fun more => ?_, fun more first => ?_, fun included => ?_, by omega⟩, fun _ => rfl⟩
          · simpa [more] using progress
          · simpa [more, first, new] using announced
          · grind

end Step

/-- The assembler, and the packets of the message that is under way. -/
structure Reassembly where
  assembler : TlsFragmentAssembler
  underway : List EapTlsPacket

namespace Reassembly

def fed (state : Reassembly) (packet : EapTlsPacket) : Outcome TlsFragmentAssembler Empty EapError (Option Octets) :=
  (addFragment packet).run state.assembler

def next (state : Reassembly) (packet : EapTlsPacket) : Reassembly where
  assembler := (state.fed packet).state
  underway :=
    match (state.fed packet).result with
    | .ok none => state.underway ++ [packet]
    | _ => []

/-- After the given packets were fed to a new assembler. -/
def after (packets : List EapTlsPacket) : Reassembly :=
  packets.foldl next ⟨new, []⟩

def announced (packets : List EapTlsPacket) : Option UInt32 :=
  (packets.find? (·.flags.lengthIncluded)).bind tlsMessageLength

/-- Either nothing is under way, or a length is recorded and not exceeded. -/
structure Coherent (state : Reassembly) : Prop where
  idle : state.underway = [] → state.assembler = new
  pending : state.underway ≠ [] → state.assembler.fragments ≠ [] ∧ ∃ expected,
    state.assembler.expectedLength = some expected ∧ announced state.underway = some expected ∧
    state.assembler.fragments.length ≤ expected.toNat ∧ expected.toNat ≤ maxMessageLength
  buffered : state.assembler.fragments = state.underway.flatMap tlsData

section Laws

variable {state : Reassembly} {packet : EapTlsPacket} {expected : UInt32}

theorem fed_cases : (∃ reason, state.fed packet = ⟨.error reason, new, []⟩) ∨
    (Acceptable state.assembler packet ∧ packet.flags.moreFragments = true ∧
      state.fed packet = ⟨.ok none, buffer packet state.assembler, []⟩) ∨
    (Acceptable state.assembler packet ∧ packet.flags.moreFragments = false ∧
      state.fed packet = ⟨(buffer packet state.assembler).finished, new, []⟩) := by
  cases checked : state.assembler.checkFragment packet with
  | error reason => exact .inl ⟨reason, addFragment_refused checked⟩
  | ok _ =>
    have fine := checkFragment_eq_ok.mp checked
    cases more : packet.flags.moreFragments with
    | true => exact .inr (.inl ⟨fine, rfl, addFragment_more checked more⟩)
    | false => exact .inr (.inr ⟨fine, rfl, addFragment_last checked more⟩)

theorem finished_eq_ok {complete : TlsFragmentAssembler} {result : Option Octets} :
    complete.finished = .ok result ↔ result = some complete.fragments ∧
      ∀ expected, complete.expectedLength = some expected → complete.fragments.length = expected.toNat := by
  unfold finished
  cases complete.expectedLength with
  | none => simp [eq_comm]
  | some expected =>
    grind

theorem announced_append (packets : List EapTlsPacket) (packet : EapTlsPacket)
    (earlier : announced packets = some expected) : announced (packets ++ [packet]) = some expected := by
  rw [announced, Option.bind_eq_some_iff] at earlier
  obtain ⟨first, found, length⟩ := earlier
  rw [announced, List.find?_append, found]
  exact length

theorem buffer_fresh (fine : Acceptable new packet) (included : packet.flags.lengthIncluded = true) :
    ∃ expected, (buffer packet new).expectedLength = some expected ∧ announced [packet] = some expected ∧
      packet.tlsData.length ≤ expected.toNat ∧ expected.toNat ≤ maxMessageLength := by
  have sane := fine.sane included
  have room := fine.room
  simp only [new, limit, List.isEmpty_nil, Option.isNone_none, Bool.and_self, included, if_true, List.length_nil,
    Nat.zero_add] at room
  cases length : packet.tlsMessageLength with
  | none => simp [length] at sane
  | some expected =>
    rw [length, Option.getD_some] at sane room
    refine ⟨expected, ?_, ?_, room, sane.2⟩
    · simp [buffer, new, included, length]
    · simp [announced, included, length]

/-- A fragment with more to come is recorded with the length it or an earlier one
announced. -/
theorem Coherent.more (coherent : Coherent state) (fine : Acceptable state.assembler packet)
    (more : packet.flags.moreFragments = true) :
    Coherent ⟨buffer packet state.assembler, state.underway ++ [packet]⟩ := by
  have data := fine.progress more
  refine ⟨fun none => absurd none (by simp), fun _ => ⟨by simp [buffer, data], ?_⟩, ?_⟩
  · by_cases idle : state.underway = []
    · rw [idle, List.nil_append]
      rw [coherent.idle idle] at fine ⊢
      exact buffer_fresh fine (fine.announced more rfl)
    · obtain ⟨_, expected, recorded, earlier, _, bounded⟩ := coherent.pending idle
      have room := fine.room
      rw [limit, recorded] at room
      refine ⟨expected, ?_, announced_append _ _ earlier, ?_, bounded⟩
      · simp [buffer, recorded]
      · simpa [buffer] using room
  · simp [buffer, coherent.buffered]

theorem Coherent.next (coherent : Coherent state) (packet : EapTlsPacket) : Coherent (state.next packet) := by
  have empty : Coherent ⟨new, []⟩ := ⟨fun _ => rfl, fun some => absurd rfl some, rfl⟩
  rcases @fed_cases state packet with ⟨reason, refused⟩ | ⟨fine, more, fed⟩ | ⟨_, _, fed⟩
  · simpa only [Reassembly.next, refused] using empty
  · simpa only [Reassembly.next, fed] using coherent.more fine more
  · simp only [Reassembly.next, fed]
    cases finished : (buffer packet state.assembler).finished with
    | error reason => exact empty
    | ok result =>
      obtain ⟨rfl, _⟩ := finished_eq_ok.mp finished
      exact empty

theorem after_coherent (packets : List EapTlsPacket) : Coherent (after packets) := by
  have kept (earlier : List EapTlsPacket) (state : Reassembly) (coherent : Coherent state) :
      Coherent (earlier.foldl Reassembly.next state) := by
    induction earlier generalizing state with
    | nil => exact coherent
    | cons packet rest ih => exact ih _ (coherent.next packet)
  exact kept packets _ ⟨fun _ => rfl, fun some => absurd rfl some, rfl⟩

theorem Coherent.recorded (coherent : Coherent state) (length : announced (state.underway ++ [packet]) = some expected) :
    (buffer packet state.assembler).expectedLength = some expected := by
  by_cases idle : state.underway = []
  · rw [idle, List.nil_append] at length
    rw [coherent.idle idle]
    cases included : packet.flags.lengthIncluded with
    | false => simp [announced, included] at length
    | true => simpa [announced, included, buffer, new] using length
  · obtain ⟨_, _, recorded, earlier, _⟩ := coherent.pending idle
    rw [announced_append _ _ earlier] at length
    cases length
    simp [buffer, recorded]

/-- What is true of the assembler before a packet, and of the packet. -/
structure Exact (state : Reassembly) (packet : EapTlsPacket) : Prop where
  bounded : ∀ expected, state.assembler.expectedLength = some expected →
    state.assembler.fragments.length ≤ expected.toNat ∧ expected.toNat ≤ 65536
  idle : state.underway = [] → state.assembler = new
  pending : state.underway ≠ [] → state.assembler.expectedLength ≠ none ∧ state.assembler.fragments ≠ []
  refused : ∀ reason, (state.fed packet).result = .error reason → (state.fed packet).state = new
  grows : packet.flags.moreFragments = true → (state.fed packet).result.isOk = true →
    state.assembler.fragments.length < (state.fed packet).state.fragments.length
  complete : ∀ message, (state.fed packet).result = .ok (some message) →
    message = (state.underway ++ [packet]).flatMap tlsData ∧
      ∀ expected, announced (state.underway ++ [packet]) = some expected → message.length = expected.toNat

theorem Coherent.exact (coherent : Coherent state) (packet : EapTlsPacket) : Exact state packet where
  idle := coherent.idle
  bounded expected recorded := by
    by_cases idle : state.underway = []
    · rw [coherent.idle idle] at recorded
      cases recorded
    · obtain ⟨_, _, same, _, bounded⟩ := coherent.pending idle
      cases same.symm.trans recorded
      exact bounded
  pending some := by
    obtain ⟨data, _, recorded, _⟩ := coherent.pending some
    exact ⟨by simp [recorded], data⟩
  refused reason failed := by
    rcases @fed_cases state packet with ⟨_, fed⟩ | ⟨_, _, fed⟩ | ⟨_, _, fed⟩
    · rw [fed]
    · rw [fed] at failed
      cases failed
    · rw [fed]
  grows more accepted := by
    rcases @fed_cases state packet with ⟨_, fed⟩ | ⟨fine, _, fed⟩ | ⟨_, last, _⟩
    · rw [fed] at accepted
      cases accepted
    · have data := List.length_pos_iff.mpr (fine.progress more)
      rw [fed, buffer, List.length_append]
      omega
    · rw [more] at last
      cases last
  complete message completed := by
    rcases @fed_cases state packet with ⟨_, fed⟩ | ⟨_, _, fed⟩ | ⟨_, _, fed⟩
    · rw [fed] at completed
      cases completed
    · rw [fed] at completed
      cases completed
    · rw [fed] at completed
      obtain ⟨same, exact⟩ := finished_eq_ok.mp completed
      cases same
      refine ⟨by simp [buffer, coherent.buffered], fun expected length => exact expected (coherent.recorded length)⟩

end Laws

end Reassembly

theorem reassembly_exact (packets : List EapTlsPacket) (packet : EapTlsPacket) :
    Reassembly.Exact (Reassembly.after packets) packet :=
  (Reassembly.after_coherent packets).exact packet

def Fed (assembler : TlsFragmentAssembler) : Prop :=
  ∃ underway, Reassembly.Coherent ⟨assembler, underway⟩

section Fed

variable {assembler : TlsFragmentAssembler} {state : Reassembly} {packet : EapTlsPacket}

theorem fed_new : Fed new :=
  ⟨[], Reassembly.after_coherent []⟩

theorem Fed.addFragment (fed : Fed assembler) (packet : EapTlsPacket) :
    Fed ((addFragment packet : Method _ Empty _ _).run assembler).state := by
  obtain ⟨underway, coherent⟩ := fed
  exact ⟨_, coherent.next packet⟩

theorem Fed.length_le (fed : Fed assembler) : assembler.fragments.length ≤ maxMessageLength := by
  obtain ⟨underway, coherent⟩ := fed
  by_cases idle : underway = []
  · have empty : assembler = new := coherent.idle idle
    rw [empty]
    exact Nat.zero_le _
  · obtain ⟨_, expected, _, _, within, sane⟩ := coherent.pending idle
    exact within.trans sane

theorem Reassembly.fed_grows (accepted : (state.fed packet).result = .ok none) :
    state.assembler.fragments.length < (state.fed packet).state.fragments.length := by
  rcases @fed_cases state packet with ⟨reason, refused⟩ | ⟨fine, more, fed⟩ | ⟨_, _, fed⟩
  · rw [refused] at accepted
    cases accepted
  · rw [fed]
    have progress := List.length_pos_iff.mpr (fine.progress more)
    simpa [buffer] using progress
  · rw [fed] at accepted
    cases (finished_eq_ok.mp accepted).1

theorem Reassembly.fed_ends {message : Octets} (accepted : (state.fed packet).result = .ok (some message)) :
    (state.fed packet).state = new := by
  rcases @fed_cases state packet with ⟨reason, refused⟩ | ⟨_, _, fed⟩ | ⟨_, _, fed⟩
  · rw [refused]
  · rw [fed] at accepted
    cases accepted
  · rw [fed]

end Fed

end TlsFragmentAssembler

theorem TlsFlags.fromU8_asU8 (flags : TlsFlags) : TlsFlags.fromU8 flags.asU8 = flags := by
  obtain ⟨lengthIncluded, moreFragments, start⟩ := flags
  revert lengthIncluded moreFragments start
  decide

theorem EapTlsPacket.fromEapData_toEapData {packet : EapTlsPacket}
    (flagged : packet.flags.lengthIncluded = packet.tlsMessageLength.isSome) :
    fromEapData packet.toEapData = .ok packet := by
  obtain ⟨flags, tlsMessageLength, tlsData⟩ := packet
  cases tlsMessageLength with
  | none =>
    simp only [Option.isSome_none] at flagged
    simp [fromEapData, toEapData, TlsFlags.fromU8_asU8, flagged]
  | some length =>
    simp only [Option.isSome_some] at flagged
    have small : length.toNat < 256 ^ 4 := length.toNat_lt
    simp [fromEapData, toEapData, TlsFlags.fromU8_asU8, flagged,
      List.take_left' (toBe_length 4 length.toNat), List.drop_left' (toBe_length 4 length.toNat),
      fromBe_toBe_of_lt small]

/-- A fragment after the first. -/
def laterFragment (more : Bool) (data : Octets) : EapTlsPacket where
  flags := { lengthIncluded := false, moreFragments := more, start := false }
  tlsMessageLength := none
  tlsData := data

def firstFragment (length : UInt32) (more : Bool) (data : Octets) : EapTlsPacket where
  flags := { lengthIncluded := true, moreFragments := more, start := false }
  tlsMessageLength := some length
  tlsData := data

inductive Splits (size : Nat) : Octets → List EapTlsPacket → Prop
  | last {data : Octets} (nonempty : data ≠ []) (fits : data.length ≤ size) : Splits size data [laterFragment false data]
  | more {data rest : Octets} {later : List EapTlsPacket} (nonempty : data ≠ []) (fits : data.length ≤ size)
      (splits : Splits size rest later) : Splits size (data ++ rest) (laterFragment true data :: later)

inductive Fragments (maximum : Nat) : LengthFlagPolicy → Octets → List EapTlsPacket → Prop
  | announced {message : Octets} (fits : message.length + 5 ≤ maximum) :
      Fragments maximum .always message [firstFragment (UInt32.ofNat message.length) false message]
  | bare {message : Octets} (fits : message.length + 1 ≤ maximum) :
      Fragments maximum .fragmentedOnly message [laterFragment false message]
  | split {policy : LengthFlagPolicy} {data rest : Octets} {later : List EapTlsPacket} (nonempty : data ≠ [])
      (fits : data.length + 5 ≤ maximum) (splits : Splits (maximum - 1) rest later) :
      Fragments maximum policy (data ++ rest)
        (firstFragment (UInt32.ofNat (data ++ rest).length) true data :: later)

section Cut

variable {total : UInt32} {lengthOnFirst : Bool} {firstSize size count maximum : Nat} {message rest : Octets}
  {policy : LengthFlagPolicy} {later fragments : List EapTlsPacket}

theorem fragmentsFrom_nil (isFirst : Bool) :
    fragmentsFrom total lengthOnFirst firstSize size count isFirst [] = [] := by
  cases count <;> rfl

theorem fragmentsFrom_step (nonempty : rest ≠ []) (isFirst : Bool) :
    fragmentsFrom total lengthOnFirst firstSize size (count + 1) isFirst rest =
      { flags :=
          { lengthIncluded := isFirst && lengthOnFirst
            moreFragments := decide (min (if isFirst then firstSize else size) rest.length < rest.length)
            start := false }
        tlsMessageLength := if isFirst && lengthOnFirst then some total else none
        tlsData := rest.take (min (if isFirst then firstSize else size) rest.length) } ::
      fragmentsFrom total lengthOnFirst firstSize size count false
        (rest.drop (min (if isFirst then firstSize else size) rest.length)) := by
  cases rest with
  | nil => exact absurd rfl nonempty
  | cons octet more => rfl

theorem fragmentsFrom_splits (positive : 0 < size) (nonempty : rest ≠ []) (enough : rest.length ≤ count) :
    Splits size rest (fragmentsFrom total lengthOnFirst firstSize size count false rest) := by
  induction count generalizing rest with
  | zero => exact absurd (List.length_eq_zero_iff.mp (by omega)) nonempty
  | succ count ih =>
    have taken := List.length_pos_iff.mpr nonempty
    rw [fragmentsFrom_step nonempty]
    simp only [Bool.false_and, Bool.false_eq_true, if_false]
    by_cases fits : rest.length ≤ size
    · rw [Nat.min_eq_right fits, List.take_length, List.drop_length, fragmentsFrom_nil, decide_eq_false (by omega)]
      exact .last nonempty fits
    · rw [Nat.min_eq_left (by omega), decide_eq_true (by omega)]
      have remaining : (rest.drop size).length = rest.length - size := List.length_drop
      have left : rest.drop size ≠ [] := List.length_pos_iff.mp (by omega)
      have front : rest.take size ≠ [] := List.length_pos_iff.mp (by rw [List.length_take]; omega)
      have splits := Splits.more front (List.length_take_le size rest) (ih left (by omega))
      rwa [List.take_append_drop] at splits

theorem fragmentsFrom_whole (nonempty : message ≠ []) (enough : message.length ≤ count) (fits : message.length ≤ firstSize) :
    fragmentsFrom total lengthOnFirst firstSize size count true message =
      [⟨⟨lengthOnFirst, false, false⟩, if lengthOnFirst then some total else none, message⟩] := by
  cases count with
  | zero => exact absurd (List.length_eq_zero_iff.mp (by omega)) nonempty
  | succ count =>
    rw [fragmentsFrom_step nonempty]
    simp only [Bool.true_and, if_true]
    rw [Nat.min_eq_right fits, List.take_length, List.drop_length, fragmentsFrom_nil, decide_eq_false (by omega)]

theorem fragmentsFrom_cut (enough : message.length ≤ count) (long : firstSize < message.length) :
    fragmentsFrom total true firstSize size count true message = firstFragment total true (message.take firstSize) ::
      fragmentsFrom total true firstSize size (count - 1) false (message.drop firstSize) := by
  have nonempty : message ≠ [] := List.length_pos_iff.mp (by omega)
  cases count with
  | zero => omega
  | succ count =>
    rw [fragmentsFrom_step nonempty]
    simp only [Bool.true_and, if_true]
    rw [Nat.min_eq_left (by omega), decide_eq_true (by omega)]
    rfl

theorem fragmentsFrom_split (large : 16 ≤ maximum) (policy : LengthFlagPolicy) (long : maximum - 5 < message.length) :
    Fragments maximum policy message (fragmentsFrom (UInt32.ofNat message.length) true (maximum - 5) (maximum - 1)
      message.length true message) := by
  have remaining : (message.drop (maximum - 5)).length = message.length - (maximum - 5) := List.length_drop
  have left : message.drop (maximum - 5) ≠ [] := List.length_pos_iff.mp (by omega)
  have taken : (message.take (maximum - 5)).length = maximum - 5 := List.length_take_of_le (by omega)
  have front : message.take (maximum - 5) ≠ [] := List.length_pos_iff.mp (by omega)
  have later := @fragmentsFrom_splits (UInt32.ofNat message.length) true (maximum - 5) (maximum - 1)
    (message.length - 1) (message.drop (maximum - 5)) (by omega) left (by omega)
  have whole := @Fragments.split maximum policy _ _ _ front (by omega) later
  rw [List.take_append_drop] at whole
  rw [fragmentsFrom_cut (Nat.le_refl _) long]
  exact whole

theorem fragmentTlsMessageWith_fragments (nonempty : message ≠ []) (large : 16 ≤ maximum) (policy : LengthFlagPolicy) :
    Fragments maximum policy message (fragmentTlsMessageWith message maximum policy) := by
  unfold fragmentTlsMessageWith
  cases policy with
  | always =>
    simp only [if_true]
    by_cases fits : message.length ≤ maximum - 5
    · rw [fragmentsFrom_whole nonempty (Nat.le_refl _) fits]
      exact .announced (by omega)
    · exact fragmentsFrom_split large .always (by omega)
  | fragmentedOnly =>
    by_cases fits : message.length ≤ maximum - 1
    · simp only [decide_eq_false (Nat.not_lt.mpr fits), Bool.false_eq_true, if_false]
      rw [fragmentsFrom_whole nonempty (Nat.le_refl _) fits]
      exact .bare (by omega)
    · simp only [decide_eq_true (Nat.not_le.mp fits), if_true]
      exact fragmentsFrom_split large .fragmentedOnly (by omega)

end Cut

def receive (data : Octets) : Method TlsFragmentAssembler Empty EapError (Option Octets) := do
  let packet ← check (fromEapData data)
  addFragment packet

/-- What `get_next_fragment` yields, at most `count` times. -/
def drain : (count : Nat) → EapTlsContext → List EapTlsPacket
  | 0, _ => []
  | count + 1, context =>
    match context.getNextFragment with
    | (some fragment, context) => fragment :: drain count context
    | (none, _) => []

/-- What is sent for a message, and what arrives of it. -/
structure RoundTrip (maximum : Nat) (policy : LengthFlagPolicy) (message : Octets) (fragments : List EapTlsPacket) :
    Prop where
  sizes : ∀ fragment ∈ fragments, fragment.toEapData.length ≤ maximum
  announced : fragments.map (·.flags.lengthIncluded) =
    decide (policy = .always ∨ 1 < fragments.length) :: List.replicate (fragments.length - 1) false
  more : fragments.map (·.flags.moreFragments) = List.replicate (fragments.length - 1) true ++ [false]
  delivered : results receive (fragments.map toEapData) .new =
    List.replicate (fragments.length - 1) (.ok none) ++ [.ok (some message)]
  queued : ∀ context : EapTlsContext, context.lengthFlagPolicy = policy → ∀ count, fragments.length ≤ count →
    drain count (context.queueTlsData message maximum) = fragments

section Deliver

variable {size maximum : Nat} {message rest front : Octets} {total : UInt32} {policy : LengthFlagPolicy}
  {later fragments : List EapTlsPacket} {packet fragment : EapTlsPacket}

theorem receive_run (flagged : packet.flags.lengthIncluded = packet.tlsMessageLength.isSome)
    (assembler : TlsFragmentAssembler) :
    (receive packet.toEapData).run assembler = (addFragment packet).run assembler := by
  rw [receive, fromEapData_toEapData flagged, run_check_bind]

theorem Splits.length_pos (splits : Splits size rest later) : 0 < later.length := by
  cases splits <;> simp

theorem Splits.sizes (splits : Splits size rest later) (member : fragment ∈ later) :
    fragment.toEapData.length ≤ size + 1 := by
  induction splits with
  | last _ fits =>
    rw [List.mem_singleton.mp member]
    simpa [laterFragment, toEapData] using fits
  | more _ fits _ ih =>
    rcases List.mem_cons.mp member with rfl | later
    · simpa [laterFragment, toEapData] using fits
    · exact ih later

theorem Splits.announced (splits : Splits size rest later) :
    later.map (·.flags.lengthIncluded) = List.replicate later.length false := by
  induction splits with
  | last => rfl
  | more _ _ _ ih => rw [List.map_cons, ih, List.length_cons, List.replicate_succ, laterFragment]

theorem Splits.more_flags (splits : Splits size rest later) :
    later.map (·.flags.moreFragments) = List.replicate (later.length - 1) true ++ [false] := by
  induction splits with
  | last => rfl
  | more _ _ splits ih =>
    have positive := splits.length_pos
    obtain ⟨count, counted⟩ := Nat.exists_eq_add_of_lt positive
    rw [List.map_cons, ih, List.length_cons, counted]
    simp [laterFragment, List.replicate_succ]

theorem later_accepted {more : Bool} {data : Octets} (nonempty : data ≠ [])
    (room : front.length + data.length ≤ total.toNat) :
    checkFragment ⟨some total, front⟩ (laterFragment more data) = .ok () := by
  refine checkFragment_eq_ok.mpr ⟨fun _ => nonempty, fun _ impossible => ?_, nofun, room⟩
  cases impossible

theorem Splits.received (splits : Splits size rest later) (exact : front.length + rest.length = total.toNat) :
    results receive (later.map toEapData) ⟨some total, front⟩ =
      List.replicate (later.length - 1) (.ok none) ++ [.ok (some (front ++ rest))] := by
  induction splits generalizing front with
  | @last data nonempty fits =>
    have accepted := @later_accepted front total false data nonempty (by omega)
    rw [List.map_singleton, results, receive_run rfl, addFragment_last accepted rfl]
    simp [results, finished, buffer, laterFragment, exact]
  | @more data rest later nonempty fits splits ih =>
    rw [List.length_append] at exact
    have accepted := @later_accepted front total true data nonempty (by omega)
    have positive := splits.length_pos
    obtain ⟨count, counted⟩ := Nat.exists_eq_add_of_lt positive
    have tail := @ih (front ++ data) (by rw [List.length_append]; omega)
    rw [List.map_cons, results, receive_run rfl, addFragment_more accepted rfl]
    have buffered : buffer (laterFragment true data) ⟨some total, front⟩ =
        ⟨some total, front ++ data⟩ := rfl
    rw [buffered, tail, List.length_cons, counted, List.append_assoc]
    simp [List.replicate_succ]

theorem first_accepted {more : Bool} {data : Octets} (nonempty : data ≠ []) (positive : 0 < total.toNat)
    (bounded : total.toNat ≤ 65536) (room : data.length ≤ total.toNat) :
    checkFragment .new (firstFragment total more data) = .ok () := by
  refine checkFragment_eq_ok.mpr ⟨fun _ => nonempty, fun _ _ => rfl, fun _ => ⟨positive, bounded⟩, ?_⟩
  simpa [new, limit, firstFragment] using room

theorem bare_accepted {data : Octets} (bounded : data.length ≤ 65536) :
    checkFragment .new (laterFragment false data) = .ok () := by
  refine checkFragment_eq_ok.mpr ⟨nofun, nofun, nofun, ?_⟩
  simpa [new, limit, laterFragment, maxMessageLength]
    using bounded

section

variable (cut : Fragments maximum policy message fragments)

include cut

theorem Fragments.received (nonempty : message ≠ [])
    (bounded : message.length ≤ 65536) :
    results receive (fragments.map toEapData) .new =
      List.replicate (fragments.length - 1) (.ok none) ++ [.ok (some message)] := by
  have positive := List.length_pos_iff.mpr nonempty
  have length : (UInt32.ofNat message.length).toNat = message.length := by
    rw [UInt32.toNat_ofNat']
    omega
  cases cut with
  | announced fits =>
    have accepted := @first_accepted (UInt32.ofNat message.length) false message nonempty (by omega) (by omega) (by omega)
    rw [List.map_singleton, results, receive_run rfl, addFragment_last accepted rfl]
    simp [results, finished, buffer, firstFragment,
      new, length]
  | bare fits =>
    rw [List.map_singleton, results, receive_run rfl,
      addFragment_last (bare_accepted bounded) rfl]
    rfl
  | @split _ data rest later front fits splits =>
    rw [List.length_append] at length positive bounded
    have accepted := @first_accepted (UInt32.ofNat (data ++ rest).length) true data front
      (by rw [List.length_append]; omega) (by rw [List.length_append]; omega) (by rw [List.length_append]; omega)
    have tail := @Splits.received (maximum - 1) rest data (UInt32.ofNat (data ++ rest).length) later splits
      (by rw [List.length_append]; omega)
    obtain ⟨count, counted⟩ := Nat.exists_eq_add_of_lt splits.length_pos
    rw [List.map_cons, results, receive_run rfl, addFragment_more accepted rfl]
    have buffered : buffer (firstFragment (UInt32.ofNat (data ++ rest).length) true data) .new =
        ⟨some (UInt32.ofNat (data ++ rest).length), data⟩ := rfl
    rw [buffered, tail, List.length_cons, counted]
    simp [List.replicate_succ]

theorem Fragments.sizes (large : 16 ≤ maximum)
    (member : fragment ∈ fragments) : fragment.toEapData.length ≤ maximum := by
  cases cut with
  | announced fits =>
    rw [List.mem_singleton.mp member]
    simpa [firstFragment, toEapData, Nat.add_comm, Nat.add_left_comm] using fits
  | bare fits =>
    rw [List.mem_singleton.mp member]
    simpa [laterFragment, toEapData] using fits
  | split nonempty fits splits =>
    rcases List.mem_cons.mp member with rfl | later
    · simpa [firstFragment, toEapData, Nat.add_comm, Nat.add_left_comm] using fits
    · have size := splits.sizes later
      omega

theorem Fragments.announced_flags :
    fragments.map (·.flags.lengthIncluded) =
      decide (policy = .always ∨ 1 < fragments.length) :: List.replicate (fragments.length - 1) false := by
  cases cut with
  | announced fits | bare fits => rfl
  | split nonempty fits splits =>
    have positive := splits.length_pos
    rw [List.map_cons, splits.announced, List.length_cons, decide_eq_true (.inr (by omega)), Nat.add_sub_cancel]
    rfl

theorem Fragments.more_flags :
    fragments.map (·.flags.moreFragments) = List.replicate (fragments.length - 1) true ++ [false] := by
  cases cut with
  | announced fits | bare fits => rfl
  | split nonempty fits splits =>
    obtain ⟨count, counted⟩ := Nat.exists_eq_add_of_lt splits.length_pos
    rw [List.map_cons, splits.more_flags, List.length_cons, counted]
    simp [firstFragment, List.replicate_succ]

end

theorem drain_eq {context : EapTlsContext} {count : Nat}
    (enough : context.outgoingFragments.length ≤ context.currentFragmentIndex + count) :
    drain count context = context.outgoingFragments.drop context.currentFragmentIndex := by
  induction count generalizing context with
  | zero => rw [drain, List.drop_of_length_le (by omega)]
  | succ count ih =>
    rw [drain, EapTlsContext.getNextFragment]
    cases found : context.outgoingFragments[context.currentFragmentIndex]? with
    | none => rw [List.drop_of_length_le (List.getElem?_eq_none_iff.mp found)]
    | some fragment =>
      obtain ⟨within, same⟩ := List.getElem?_eq_some_iff.mp found
      dsimp only
      rw [ih (by simp only; omega), List.drop_eq_getElem_cons within, same]

end Deliver

theorem fragments_roundTrip (message : Octets) (nonempty : message ≠ []) (bounded : message.length ≤ 65536) (maximum : Nat)
    (large : 16 ≤ maximum) (policy : LengthFlagPolicy) :
    RoundTrip maximum policy message (fragmentTlsMessageWith message maximum policy) := by
  have cut := fragmentTlsMessageWith_fragments nonempty large policy
  refine ⟨fun fragment => cut.sizes large, cut.announced_flags, cut.more_flags, cut.received nonempty bounded, ?_⟩
  intro context same count enough
  rw [drain_eq (by simpa [EapTlsContext.queueTlsData, same] using enough)]
  simp [EapTlsContext.queueTlsData, same]

theorem twoFragments_roundTrip :
    RoundTrip 16 .fragmentedOnly (List.replicate 20 7) [firstFragment 20 true (List.replicate 11 7),
      laterFragment false (List.replicate 9 7)] :=
  fragments_roundTrip (List.replicate 20 7) (by decide) (by decide) 16 (by decide) .fragmentedOnly

end UsgRadius.Eap
