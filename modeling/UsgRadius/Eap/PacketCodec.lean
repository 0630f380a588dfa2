import UsgRadius.Eap.Packet

namespace UsgRadius.Eap

open Data EapType

variable {octet : UInt8}

/-! The octets of EAP packets: which packet is read from them, and when writing it
gives the same octets again. -/

namespace EapCode

/-- Only requests and responses have a type. -/
def isTyped : EapCode → Bool
  | request | response => true
  | success | failure => false

theorem fromU8_eq_some {code : EapCode} : fromU8 octet = some code ↔ octet = code.asU8 := by
  refine ⟨fun known => ?_, fun same => ?_⟩
  · unfold fromU8 at known
    split at known <;> cases known <;> rfl
  · rw [same]
    cases code <;> rfl

end EapCode

variable {eapType : EapType}

namespace EapType

theorem fromU8_eq_some : fromU8 octet = some eapType ↔ octet = eapType.asU8 := by
  refine ⟨fun known => ?_, fun same => ?_⟩
  · unfold fromU8 at known
    split at known <;> cases known <;> rfl
  · rw [same]
    cases eapType <;> rfl

end EapType

namespace EapPacket

def lengthField (bytes : Octets) : Nat :=
  fromBe ((bytes.drop 2).take 2)

/-- A type exactly for requests and responses, and no data without one. -/
structure WellFormed (packet : EapPacket) : Prop where
  typed : packet.eapType.isSome = packet.code.isTyped
  bare : packet.code.isTyped = false → packet.data = []

section Octets

variable {bytes rest more : Octets} {packet : EapPacket} {code identifier high low octet : UInt8} {size : Nat}
  {found : EapCode}

structure Carries (size : Nat) (rest : Octets) (packet : EapPacket) : Prop where
  typed : packet.code.isTyped = true → ∃ octet more, rest = octet :: more ∧ 5 ≤ size ∧
    packet.eapType = fromU8 octet ∧ packet.data = more.take (size - 5)
  bare : packet.code.isTyped = false → packet.eapType = none ∧ packet.data = []

theorem fromBytes_short (short : bytes.length < 4) : fromBytes bytes ≠ .ok packet := by
  rw [fromBytes, if_pos short]
  exact nofun

theorem carries_typed (typed : packet.code.isTyped = true) :
    Carries size (octet :: more) packet ↔
      5 ≤ size ∧ packet.eapType = fromU8 octet ∧ packet.data = more.take (size - 5) := by
  refine ⟨fun carries => ?_, fun ⟨enough, type, data⟩ => ⟨fun _ => ⟨octet, more, rfl, enough, type, data⟩, ?_⟩⟩
  · obtain ⟨_, _, same, found⟩ := carries.typed typed
    cases same
    exact found
  · rw [typed]
    exact nofun

theorem carries_bare (bare : packet.code.isTyped = false) :
    Carries size rest packet ↔ packet.eapType = none ∧ packet.data = [] := by
  refine ⟨fun carries => carries.bare bare, fun nothing => ⟨?_, fun _ => nothing⟩⟩
  rw [bare]
  exact nofun

theorem read_typed (typed : found.isTyped = true) (whole : size ≤ rest.length + 4) :
    (if size < 5 then .error (.invalidLength size)
      else .ok ⟨found, identifier, fromU8 (rest.getD 0 0),
        ((code :: identifier :: high :: low :: rest).take size).drop 5⟩ : Except EapError EapPacket) = .ok packet ↔
      packet.code = found ∧ identifier = packet.identifier ∧ Carries size rest packet := by
  split
  next small =>
    refine ⟨nofun, fun ⟨same, _, carries⟩ => ?_⟩
    obtain ⟨_, _, _, enough, _⟩ := carries.typed (same ▸ typed)
    omega
  next enough =>
    match rest with
    | [] => simp at whole; omega
    | octet :: more =>
      obtain ⟨later, rfl⟩ := Nat.exists_eq_add_of_le (Nat.not_lt.mp enough)
      obtain ⟨own, identifier', eapType, data⟩ := packet
      have data' : ((code :: identifier :: high :: low :: octet :: more).take (5 + later)).drop 5 =
          more.take (5 + later - 5) := by
        rw [List.drop_take]
        rfl
      rw [data', Except.ok.injEq, EapPacket.mk.injEq]
      refine ⟨fun ⟨sameCode, sameIdentifier, type, taken⟩ => ?_, fun ⟨sameCode, sameIdentifier, carries⟩ => ?_⟩
      · subst sameCode
        exact ⟨rfl, sameIdentifier, (carries_typed typed).mpr ⟨by omega, type.symm, taken.symm⟩⟩
      · subst sameCode
        obtain ⟨_, type, taken⟩ := (carries_typed typed).mp carries
        exact ⟨rfl, sameIdentifier, type.symm, taken.symm⟩

theorem read_bare (bare : found.isTyped = false) :
    (.ok ⟨found, identifier, none, []⟩ : Except EapError EapPacket) = .ok packet ↔
      packet.code = found ∧ identifier = packet.identifier ∧ Carries size rest packet := by
  obtain ⟨own, identifier', eapType, data⟩ := packet
  rw [Except.ok.injEq, EapPacket.mk.injEq]
  refine ⟨fun ⟨sameCode, sameIdentifier, type, taken⟩ => ?_, fun ⟨sameCode, sameIdentifier, carries⟩ => ?_⟩
  · subst sameCode
    exact ⟨rfl, sameIdentifier, (carries_bare bare).mpr ⟨type.symm, taken.symm⟩⟩
  · subst sameCode
    obtain ⟨type, taken⟩ := (carries_bare bare).mp carries
    exact ⟨rfl, sameIdentifier, type.symm, taken.symm⟩

theorem fromBytes_cons :
    fromBytes (code :: identifier :: high :: low :: rest) = .ok packet ↔
      code = packet.code.asU8 ∧ identifier = packet.identifier ∧ 4 ≤ fromBe [high, low] ∧
        fromBe [high, low] ≤ rest.length + 4 ∧ Carries (fromBe [high, low]) rest packet := by
  have long : ¬ (code :: identifier :: high :: low :: rest).length < 4 := by simp
  have field : fromBe ((List.drop 2 (code :: identifier :: high :: low :: rest)).take 2) = fromBe [high, low] := rfl
  rw [fromBytes, if_neg long]
  simp only [List.getD_cons_zero, List.getD_cons_succ, field]
  generalize fromBe [high, low] = size
  cases known : EapCode.fromU8 code with
  | none =>
    refine ⟨nofun, fun ⟨same, _⟩ => ?_⟩
    rw [EapCode.fromU8_eq_some.mpr same] at known
    cases known
  | some found =>
    have isCode : code = packet.code.asU8 ↔ packet.code = found := by
      rw [← EapCode.fromU8_eq_some, known, Option.some.injEq, eq_comm]
    rw [isCode]
    dsimp only
    split
    next small => exact ⟨nofun, fun ⟨_, _, size, _⟩ => by omega⟩
    next covered =>
      split
      next cut => exact ⟨nofun, fun ⟨_, _, _, whole, _⟩ => by simp at cut; omega⟩
      next whole =>
        simp only [List.length_cons, not_lt] at covered whole
        simp only [covered, whole, true_and]
        cases found with
        | request | response => exact read_typed rfl whole
        | success | failure => exact read_bare rfl

theorem written_length {size : Nat} (small : size < 65536) :
    ∃ high low, toBe 2 size = [high, low] ∧ fromBe [high, low] = size := by
  obtain ⟨high, low, field⟩ := List.length_eq_two.mp (toBe_length 2 size)
  refine ⟨high, low, field, ?_⟩
  rw [← field]
  exact fromBe_toBe_of_lt small

theorem toBytes_typed (typed : packet.code.isTyped = true) (type : packet.eapType = some eapType) :
    packet.toBytes = packet.code.asU8 :: packet.identifier ::
      (toBe 2 (5 + packet.data.length) ++ eapType.asU8 :: packet.data) := by
  have length : packet.length = 5 + packet.data.length := by
    unfold EapPacket.length
    revert typed
    cases packet.code <;> simp [EapCode.isTyped]
  simp [toBytes, type, length]

theorem toBytes_untyped (type : packet.eapType = none) :
    packet.toBytes = packet.code.asU8 :: packet.identifier :: toBe 2 packet.length := by
  simp [toBytes, type]

theorem length_bare (bare : packet.code.isTyped = false) : packet.length = 4 := by
  unfold EapPacket.length
  revert bare
  cases packet.code <;> simp [EapCode.isTyped]

/-- A packet that is well formed is read back from its own octets, and from
anything they begin. -/
theorem fromBytes_toBytes (formed : packet.WellFormed) (small : packet.toBytes.length ≤ 65535) (rest : Octets) :
    fromBytes (packet.toBytes ++ rest) = .ok packet := by
  cases typed : packet.code.isTyped with
  | true =>
    obtain ⟨eapType, type⟩ := Option.isSome_iff_exists.mp (formed.typed.trans typed)
    rw [toBytes_typed typed type] at small ⊢
    simp only [List.length_cons, List.length_append, toBe_length] at small
    obtain ⟨high, low, field, size⟩ := @written_length (5 + packet.data.length) (by omega)
    rw [field]
    refine fromBytes_cons.mpr ⟨rfl, rfl, by omega, by simp; omega, ?_⟩
    refine (carries_typed typed).mpr ⟨by omega, ?_, ?_⟩
    · rw [type, fromU8_eq_some.mpr rfl]
    · rw [size, Nat.add_sub_cancel_left]
      exact List.take_left.symm
  | false =>
    have type : packet.eapType = none := by
      rw [← Option.isNone_iff_eq_none, ← Option.not_isSome, formed.typed, typed]
      rfl
    obtain ⟨high, low, field, size⟩ := @written_length packet.length (by rw [length_bare typed]; omega)
    rw [toBytes_untyped type, field]
    rw [length_bare typed] at size
    refine fromBytes_cons.mpr ⟨rfl, rfl, by omega, by simp; omega, ?_⟩
    exact (carries_bare typed).mpr ⟨type, formed.bare typed⟩

/-- Written again, a packet gives the octets it was read from. -/
structure Rewritten (bytes : Octets) (packet : EapPacket) : Prop where
  octets : packet.toBytes = bytes.take (if packet.code.isTyped then lengthField bytes else 4)
  counted : lengthField packet.toBytes = packet.toBytes.length

/-- The type has a name; without a type, the packet ends with its header. -/
def Canonical (bytes : Octets) : Prop :=
  match EapCode.fromU8 (bytes.getD 0 0) with
  | some .request => (fromU8 (bytes.getD 4 0)).isSome = true
  | some .response => (fromU8 (bytes.getD 4 0)).isSome = true
  | _ => lengthField bytes = 4

theorem canonical_cons {packetCode : EapCode} :
    Canonical (packetCode.asU8 :: identifier :: high :: low :: rest) ↔
      if packetCode.isTyped then (fromU8 (rest.getD 0 0)).isSome = true else fromBe [high, low] = 4 := by
  cases packetCode <;> rfl

theorem rewritten_typed (typed : packet.code.isTyped = true) (whole : fromBe [high, low] ≤ (octet :: more).length + 4)
    (carries : Carries (fromBe [high, low]) (octet :: more) packet) :
    Rewritten (packet.code.asU8 :: packet.identifier :: high :: low :: octet :: more) packet ↔
      (fromU8 octet).isSome = true := by
  obtain ⟨enough, type, data⟩ := (carries_typed typed).mp carries
  have field : lengthField (packet.code.asU8 :: packet.identifier :: high :: low :: octet :: more) =
      fromBe [high, low] := rfl
  cases named : fromU8 octet with
  | none =>
    refine ⟨fun written => ?_, nofun⟩
    have lengths := congrArg List.length written.octets
    rw [toBytes_untyped (type.trans named), if_pos typed, field, List.length_take] at lengths
    simp only [List.length_cons, toBe_length] at lengths whole
    omega
  | some eapType =>
    refine ⟨fun _ => rfl, fun _ => ?_⟩
    have taken : packet.data.length = fromBe [high, low] - 5 := by
      rw [data, List.length_take]
      simp only [List.length_cons] at whole
      omega
    have size : 5 + packet.data.length = fromBe [high, low] := by omega
    have written : packet.toBytes = packet.code.asU8 :: packet.identifier :: high :: low :: octet :: packet.data := by
      rw [toBytes_typed typed (type.trans named), size, fromU8_eq_some.mp named]
      exact congrArg (fun field => _ :: _ :: (field ++ _)) (toBe_fromBe [high, low])
    refine ⟨?_, ?_⟩
    · grind
    · rw [written]
      simp only [lengthField, List.drop_succ_cons, List.drop_zero, List.take_succ_cons, List.take_zero,
        List.length_cons]
      omega

theorem rewritten_bare (bare : packet.code.isTyped = false) (type : packet.eapType = none) :
    Rewritten (packet.code.asU8 :: packet.identifier :: high :: low :: rest) packet ↔ fromBe [high, low] = 4 := by
  have field : toBe 2 4 = [0, 4] := by decide
  have written : packet.toBytes = [packet.code.asU8, packet.identifier, 0, 4] := by
    rw [toBytes_untyped type, length_bare bare, field]
  have counted : lengthField packet.toBytes = packet.toBytes.length := by
    rw [written]
    rfl
  refine ⟨fun same => ?_, fun size => ⟨?_, counted⟩⟩
  · have octets := same.octets
    rw [written, bare] at octets
    simp only [Bool.false_eq_true, if_false, List.take_succ_cons, List.take_zero, List.cons.injEq, true_and, and_true]
      at octets
    rw [← octets.1, ← octets.2]
    rfl
  · have octets : [high, low] = [0, 4] := by rw [← toBe_fromBe [high, low], size, ← field]; rfl
    simp only [List.cons.injEq, and_true] at octets
    rw [written, bare, octets.1, octets.2]
    rfl

theorem rewritten_iff (read : fromBytes bytes = .ok packet) : Rewritten bytes packet ↔ Canonical bytes := by
  match bytes with
  | [] | [_] | [_, _] | [_, _, _] => exact absurd read (fromBytes_short (by simp))
  | code :: identifier :: high :: low :: rest =>
    obtain ⟨rfl, rfl, _, whole, carries⟩ := fromBytes_cons.mp read
    rw [canonical_cons]
    cases typed : packet.code.isTyped with
    | true =>
      obtain ⟨octet, more, rfl, _⟩ := carries.typed typed
      exact rewritten_typed typed whole carries
    | false => exact rewritten_bare typed (carries.bare typed).1

end Octets

theorem codec_iff (bytes : Octets) (packet : EapPacket) :
    (fromBytes bytes = .ok packet → (Rewritten bytes packet ↔ Canonical bytes)) ∧
    (packet.WellFormed → packet.toBytes.length ≤ 65535 → fromBytes packet.toBytes = .ok packet) := by
  refine ⟨fun read => rewritten_iff read, fun formed small => ?_⟩
  have read := fromBytes_toBytes formed small []
  rwa [List.append_nil] at read

theorem identity_rewritten :
    Rewritten [2, 1, 0, 8, 1, 98, 111, 98, 9] ⟨.response, 1, some .identity, [98, 111, 98]⟩ ∧
    fromBytes (failure 1).toBytes = .ok (failure 1) := by
  have read : fromBytes [2, 1, 0, 8, 1, 98, 111, 98, 9] = .ok ⟨.response, 1, some .identity, [98, 111, 98]⟩ := by
    decide +kernel
  exact ⟨((codec_iff _ _).1 read).mpr rfl, (codec_iff [] (failure 1)).2 ⟨rfl, fun _ => rfl⟩ (by decide +kernel)⟩

/-- A type without a name is lost together with its data, and a Success that claims
more than its header is written as four octets. -/
theorem unnamedType_lost :
    (fromBytes [2, 1, 0, 6, 254, 7] = .ok ⟨.response, 1, none, [7]⟩ ∧
      ¬ Rewritten [2, 1, 0, 6, 254, 7] ⟨.response, 1, none, [7]⟩) ∧
    (fromBytes [3, 1, 0, 5, 9] = .ok (success 1) ∧ ¬ Rewritten [3, 1, 0, 5, 9] (success 1)) := by
  refine ⟨⟨by decide +kernel, fun written => ?_⟩, ⟨by decide +kernel, fun written => ?_⟩⟩
  · exact absurd written.octets (by decide +kernel)
  · exact absurd written.octets (by decide +kernel)

end EapPacket

end UsgRadius.Eap
