import UsgRadius.Eap.TeapTlv
import Mathlib.Data.Nat.Bitwise

namespace UsgRadius.Eap

open Data TeapTlv

namespace TeapTlv

/-- The TLVs whose type and length fit their fields. -/
structure Fits (tlv : TeapTlv) : Prop where
  type : tlv.tlvType ≤ 0x3fff
  small : tlv.value.length ≤ 65535

section Bits

variable {word : UInt16}

theorem toNat_typeMask (word : UInt16) : (word &&& typeMask).toNat = word.toNat % 2 ^ 14 := by
  rw [UInt16.toNat_and]
  exact Nat.and_two_pow_sub_one_eq_mod word.toNat 14

theorem toNat_and_bit (word : UInt16) (place : Nat) {bit : UInt16} (single : bit.toNat = 2 ^ place) :
    (word &&& bit).toNat = (word.toNat / 2 ^ place % 2) * 2 ^ place := by
  rw [UInt16.toNat_and, single, Nat.and_two_pow, Nat.testBit_eq_decide_div_mod_eq]
  rcases Nat.mod_two_eq_zero_or_one (word.toNat / 2 ^ place) with even | odd
  · simp [even]
  · simp [odd]

theorem unreserved_iff (word : UInt16) : word &&& reservedFlag = 0 ↔ word.toNat / 2 ^ 14 % 2 = 0 := by
  rw [← UInt16.toNat_inj, toNat_and_bit word 14 rfl]
  exact Nat.mul_eq_zero.trans (or_iff_left (by decide))

theorem mandatory_iff (word : UInt16) : (word &&& mandatoryFlag != 0) = true ↔ word.toNat / 2 ^ 15 % 2 = 1 := by
  rw [bne_iff_ne, ne_eq, ← UInt16.toNat_inj, toNat_and_bit word 15 rfl]
  show ¬ _ = 0 ↔ _
  omega

def typeField (tlv : TeapTlv) : UInt16 :=
  (tlv.tlvType &&& typeMask) ||| (if tlv.mandatory then mandatoryFlag else 0)

theorem toNat_typeField (tlv : TeapTlv) :
    tlv.typeField.toNat = tlv.tlvType.toNat % 2 ^ 14 + if tlv.mandatory then 2 ^ 15 else 0 := by
  have bound := Nat.mod_lt tlv.tlvType.toNat (show 0 < 2 ^ 14 by decide)
  rw [typeField, UInt16.toNat_or, toNat_typeMask]
  cases tlv.mandatory with
  | false => exact Nat.or_zero _
  | true =>
    have apart := Nat.two_pow_add_eq_or_of_lt (show tlv.tlvType.toNat % 2 ^ 14 < 2 ^ 15 by omega) 1
    rw [Nat.or_comm]
    exact apart.symm.trans (Nat.add_comm _ _)

end Bits

variable {tlv : TeapTlv} {data : Octets}

theorem toBytes_eq (tlv : TeapTlv) :
    tlv.toBytes = toBe 2 tlv.typeField.toNat ++ toBe 2 tlv.value.length ++ tlv.value := rfl

@[simp] theorem toBytes_length (tlv : TeapTlv) : tlv.toBytes.length = tlv.encodedLength := by
  simp only [toBytes_eq, List.length_append, toBe_length, encodedLength]

theorem fromBytes_sound (read : fromBytes data = .ok tlv) : tlv.Fits ∧ tlv.toBytes <+: data := by
  unfold fromBytes at read
  split at read
  · cases read
  · rename_i header
    dsimp only at read
    split at read
    · cases read
    · rename_i unreserved
      split at read
      · cases read
      · rename_i whole
        cases read
        have typeSize : (data.take 2).length = 2 := by
          rw [List.length_take]
          omega
        have lengthSize : ((data.drop 2).take 2).length = 2 := by
          rw [List.length_take, List.length_drop]
          omega
        have typeBound := fromBe_lt (data.take 2)
        have lengthBound := fromBe_lt ((data.drop 2).take 2)
        rw [typeSize] at typeBound
        rw [lengthSize] at lengthBound
        have valueSize : ((data.drop 4).take (fromBe ((data.drop 2).take 2))).length =
            fromBe ((data.drop 2).take 2) := by
          rw [List.length_take, List.length_drop]
          omega
        have word : (UInt16.ofNat (fromBe (data.take 2))).toNat = fromBe (data.take 2) :=
          UInt16.toNat_ofNat_of_lt' typeBound
        have single := (unreserved_iff _).mp (not_not.mp unreserved)
        have flagged := mandatory_iff (UInt16.ofNat (fromBe (data.take 2)))
        have field : (⟨UInt16.ofNat (fromBe (data.take 2)) &&& typeMask,
            UInt16.ofNat (fromBe (data.take 2)) &&& mandatoryFlag != 0,
            (data.drop 4).take (fromBe ((data.drop 2).take 2))⟩ : TeapTlv).typeField.toNat =
            fromBe (data.take 2) := by
          rw [toNat_typeField, toNat_typeMask, word]
          rw [word] at single flagged
          split
          · rename_i set
            have high := flagged.mp set
            omega
          · rename_i unset
            have low := mt flagged.mpr unset
            omega
        refine ⟨⟨?_, ?_⟩, data.drop (4 + fromBe ((data.drop 2).take 2)), ?_⟩
        · show (UInt16.ofNat (fromBe (data.take 2)) &&& typeMask).toNat ≤ 0x3fff
          rw [toNat_typeMask]
          omega
        · show ((data.drop 4).take (fromBe ((data.drop 2).take 2))).length ≤ 65535
          omega
        · have typeOctets := toBe_fromBe (data.take 2)
          have lengthOctets := toBe_fromBe ((data.drop 2).take 2)
          rw [typeSize] at typeOctets
          rw [lengthSize] at lengthOctets
          rw [toBytes_eq, field, valueSize, typeOctets, lengthOctets, List.append_assoc, List.append_assoc,
            ← List.drop_drop, List.take_append_drop]
          have rest := List.take_append_drop 2 (data.drop 2)
          rw [List.drop_drop] at rest
          rw [rest, List.take_append_drop]

theorem fromBytes_complete (rest : Octets) (fits : tlv.Fits) : fromBytes (tlv.toBytes ++ rest) = .ok tlv := by
  have typeOctets : (tlv.toBytes ++ rest).take 2 = toBe 2 tlv.typeField.toNat := by
    rw [toBytes_eq, List.append_assoc, List.append_assoc]
    exact List.take_left' (toBe_length 2 _)
  have lengthOctets : ((tlv.toBytes ++ rest).drop 2).take 2 = toBe 2 tlv.value.length := by
    rw [toBytes_eq, List.append_assoc, List.append_assoc, List.drop_left' (toBe_length 2 _)]
    exact List.take_left' (toBe_length 2 _)
  have valueOctets : ((tlv.toBytes ++ rest).drop 4).take tlv.value.length = tlv.value := by
    rw [toBytes_eq, List.append_assoc, List.drop_left' (by simp)]
    exact List.take_left' rfl
  have word : UInt16.ofNat (fromBe (toBe 2 tlv.typeField.toNat)) = tlv.typeField := by
    rw [fromBe_toBe_of_lt (UInt16.toNat_lt _), UInt16.ofNat_toNat]
  have length : fromBe (toBe 2 tlv.value.length) = tlv.value.length :=
    fromBe_toBe_of_lt (Nat.lt_succ_of_le fits.small)
  have typeBound : tlv.tlvType.toNat ≤ 0x3fff := fits.type
  have field := toNat_typeField tlv
  have unreserved : ¬ tlv.typeField &&& reservedFlag ≠ 0 := by
    rw [not_not, unreserved_iff, field]
    split <;> omega
  have mandatory : (tlv.typeField &&& mandatoryFlag != 0) = tlv.mandatory := by
    rw [Bool.eq_iff_iff, mandatory_iff, field]
    cases tlv.mandatory with
    | false | true => simp; omega
  have type : tlv.typeField &&& typeMask = tlv.tlvType := by
    apply UInt16.toNat_inj.mp
    rw [toNat_typeMask, field]
    split <;> omega
  have header : ¬ (tlv.toBytes ++ rest).length < 4 := by
    rw [List.length_append, toBytes_length, encodedLength]
    omega
  have whole : ¬ (tlv.toBytes ++ rest).length < 4 + tlv.value.length := by
    rw [List.length_append, toBytes_length, encodedLength]
    omega
  simp only [fromBytes, if_neg header, typeOctets, lengthOctets, word, if_neg unreserved, length, if_neg whole,
    valueOctets, mandatory, type]

theorem lawful : Framing.Lawful fromBytes encodedLength toBytes Fits where
  sound := fromBytes_sound
  complete := fromBytes_complete
  width_eq := fun tlv => tlv.toBytes_length.symm
  progress := fun tlv => Nat.lt_of_lt_of_le (by decide) (Nat.le_add_right 4 tlv.value.length)

end TeapTlv

namespace TeapPacket

variable {data : Octets} {length reduced : Option UInt32} {packet : TeapPacket}

theorem flags_read (flags : TlsFlags) (version : Fin 8) (outer : Bool) :
    let octet := flags.asU8 ||| UInt8.ofNat version ||| (if outer then flagOuterTlvLength else 0)
    UInt8.ofNat version &&& versionMask = .ofNat version ∧ TlsFlags.fromU8 octet = flags ∧
      octet &&& versionMask = .ofNat version ∧ (octet &&& flagOuterTlvLength = 0 ↔ outer = false) := by
  obtain ⟨lengthIncluded, moreFragments, start⟩ := flags
  revert lengthIncluded moreFragments start version outer
  decide

/-- The packets that say of their parts what is there. -/
structure WellFormed (packet : TeapPacket) : Prop where
  announced : packet.tls.flags.lengthIncluded = packet.tls.tlsMessageLength.isSome
  version : ∃ version : Fin 8, packet.version = .ofNat version
  whole : packet.outerTlvs ≠ [] → packet.tls.flags.moreFragments = false
  parsed : ∃ tlvs, parseTlvs packet.outerTlvs = .ok tlvs
  counted : packet.outerTlvs.length < 2 ^ 32
  total : ∀ length ∈ packet.tls.tlsMessageLength, length.toNat + 4 + packet.outerTlvs.length < 2 ^ 32 ∨
    packet.outerTlvs = []

theorem takeMessageLength_ok {flags : TlsFlags} {rest : Octets}
    (taken : takeMessageLength flags data = .ok (length, rest)) : flags.lengthIncluded = length.isSome := by
  unfold takeMessageLength at taken
  split at taken
  · rename_i included
    split at taken
    · cases taken
    · cases taken
      exact included
  · rename_i absent
    cases taken
    exact Bool.eq_false_iff.mpr absent

theorem reduceMessageLength_ok {outerLength : Nat} (shortened : reduceMessageLength length outerLength = .ok reduced) :
    length.isSome = reduced.isSome ∧ ∀ total ∈ reduced, total.toNat + 4 + outerLength < 2 ^ 32 := by
  cases length with
  | none =>
    cases shortened
    exact ⟨rfl, fun _ impossible => by cases impossible⟩
  | some length =>
    simp only [reduceMessageLength] at shortened
    split at shortened
    · cases shortened
    · rename_i enough
      cases shortened
      refine ⟨rfl, ?_⟩
      intro total same
      cases same
      have bound := length.toNat_lt
      have small : length.toNat - (4 + outerLength) < 2 ^ 32 := by omega
      rw [UInt32.toNat_ofNat_of_lt' small]
      omega

theorem fromEapData_wellFormed (read : fromEapData data = .ok packet) : packet.WellFormed := by
  unfold fromEapData at read
  split at read
  · cases read
  · rename_i rawFlags _
    have version : ∃ version : Fin 8, rawFlags &&& versionMask = .ofNat version := by
      have small : (rawFlags &&& versionMask).toNat < 8 := by
        rw [UInt8.toNat_and]
        exact Nat.and_lt_two_pow _ (show versionMask.toNat < 2 ^ 3 by decide)
      exact ⟨⟨_, small⟩, UInt8.ofNat_toNat.symm⟩
    obtain ⟨⟨length, rest⟩, taken, read⟩ := Results.bind_eq_ok.mp read
    have announced := takeMessageLength_ok taken
    dsimp only at read
    split at read
    · cases read
      exact ⟨announced, version, fun impossible => absurd rfl impossible, ⟨[], rfl⟩, Nat.two_pow_pos 32, fun _ _ => .inr rfl⟩
    · split at read
      · cases read
      · rename_i unfragmented
        split at read
        · cases read
        · rename_i header
          split at read
          · cases read
          · rename_i within
            obtain ⟨tlvs, parsed, read⟩ := Results.bind_eq_ok.mp read
            obtain ⟨reduced, shortened, read⟩ := Results.bind_eq_ok.mp read
            cases read
            have size : (rest.take 4).length = 4 := by
              rw [List.length_take]
              omega
            have bound := fromBe_lt (rest.take 4)
            rw [size] at bound
            have counted : ((rest.drop 4).drop ((rest.drop 4).length - fromBe (rest.take 4))).length =
                fromBe (rest.take 4) := by
              rw [List.length_drop]
              omega
            obtain ⟨same, total⟩ := reduceMessageLength_ok shortened
            refine ⟨announced.trans same, version, fun _ => Bool.eq_false_iff.mpr unfragmented, ⟨tlvs, parsed⟩, ?_, ?_⟩
            · rw [counted]
              exact bound
            · intro length member
              rw [counted]
              exact .inl (total length member)

theorem takeMessageLength_encoded {flags : TlsFlags} {length : Option UInt32} (octet : UInt8) (rest : Octets)
    (announced : flags.lengthIncluded = length.isSome) :
    takeMessageLength flags (octet :: ((length.elim [] fun length => toBe 4 length.toNat) ++ rest)) =
      .ok (length, rest) := by
  cases length with
  | none => simp [takeMessageLength, announced]
  | some length =>
    have read : ((toBe 4 length.toNat ++ rest).take 4) = toBe 4 length.toNat := List.take_left' (toBe_length 4 _)
    have left : ((toBe 4 length.toNat ++ rest).drop 4) = rest := List.drop_left' (toBe_length 4 _)
    have value : UInt32.ofNat (fromBe (toBe 4 length.toNat)) = length := by
      rw [fromBe_toBe_of_lt length.toNat_lt, UInt32.ofNat_toNat]
    simp [takeMessageLength, announced, read, left, value]

theorem fromEapData_outer {octet : UInt8} {tail tlsData outerTlvs : Octets} {tlvs : List TeapTlv}
    (taken : takeMessageLength (TlsFlags.fromU8 octet) (octet :: tail) =
      .ok (length, toBe 4 outerTlvs.length ++ (tlsData ++ outerTlvs))) (outer : octet &&& flagOuterTlvLength ≠ 0)
    (unfragmented : (TlsFlags.fromU8 octet).moreFragments = false) (counted : outerTlvs.length < 2 ^ 32)
    (parsed : parseTlvs outerTlvs = .ok tlvs)
    (shortened : reduceMessageLength length outerTlvs.length = .ok reduced) :
    fromEapData (octet :: tail) = .ok ⟨⟨TlsFlags.fromU8 octet, reduced, tlsData⟩, octet &&& versionMask, outerTlvs⟩ := by
  have header : ¬ (toBe 4 outerTlvs.length ++ (tlsData ++ outerTlvs)).length < 4 := by
    rw [List.length_append, toBe_length]
    omega
  have field : (toBe 4 outerTlvs.length ++ (tlsData ++ outerTlvs)).take 4 = toBe 4 outerTlvs.length :=
    List.take_left' (toBe_length 4 _)
  have payload : (toBe 4 outerTlvs.length ++ (tlsData ++ outerTlvs)).drop 4 = tlsData ++ outerTlvs :=
    List.drop_left' (toBe_length 4 _)
  have value : fromBe (toBe 4 outerTlvs.length) = outerTlvs.length := fromBe_toBe_of_lt (by omega)
  have within : ¬ outerTlvs.length > (tlsData ++ outerTlvs).length := by
    rw [List.length_append]
    omega
  have split : (tlsData ++ outerTlvs).length - outerTlvs.length = tlsData.length := by
    rw [List.length_append, Nat.add_sub_cancel]
  have single : ¬ (TlsFlags.fromU8 octet).moreFragments = true := Bool.eq_false_iff.mp unfragmented
  simp only [fromEapData, taken, Results.ok_bind]
  rw [if_neg outer, if_neg single, if_neg header, field, payload, value, if_neg within, split, List.drop_left,
    List.take_left, parsed, Results.ok_bind, shortened]
  rfl

theorem fromEapData_toEapData (wellFormed : packet.WellFormed) : fromEapData packet.toEapData = .ok packet := by
  obtain ⟨⟨flags, length, tlsData⟩, version, outerTlvs⟩ := packet
  obtain ⟨announced, ⟨version, rfl⟩, whole, ⟨tlvs, parsed⟩, counted, total⟩ := wellFormed
  dsimp only at announced whole parsed counted total
  by_cases bare : outerTlvs = []
  · obtain ⟨masked, read, versioned, outer⟩ := flags_read flags version false
    subst bare
    simp only [Bool.false_eq_true, if_false, UInt8.or_zero] at read versioned outer
    simp only [toEapData, masked, List.isEmpty_nil, if_true, fromEapData, read, versioned,
      takeMessageLength_encoded _ _ announced, Results.ok_bind, outer.mpr trivial]
    rfl
  · obtain ⟨masked, read, versioned, outer⟩ := flags_read flags version true
    have present : outerTlvs.isEmpty = false := by simpa using bare
    simp only [if_true, Bool.true_eq_false, iff_false] at read versioned outer
    have longer : (length.elim [] fun length => toBe 4 (length.toNat + 4 + outerTlvs.length)) =
        (length.map fun length => UInt32.ofNat (length.toNat + 4 + outerTlvs.length)).elim []
          fun length => toBe 4 length.toNat := by
      cases length with
      | none => rfl
      | some length =>
        have small := (total length rfl).resolve_right bare
        rw [Option.elim_some, Option.map_some, Option.elim_some, UInt32.toNat_ofNat_of_lt' small]
    have taken := @takeMessageLength_encoded flags
      (length.map fun length => UInt32.ofNat (length.toNat + 4 + outerTlvs.length))
      (flags.asU8 ||| UInt8.ofNat version ||| flagOuterTlvLength)
      (toBe 4 outerTlvs.length ++ (tlsData ++ outerTlvs)) (announced.trans Option.isSome_map.symm)
    have reduced : reduceMessageLength (length.map fun length => UInt32.ofNat (length.toNat + 4 + outerTlvs.length))
        outerTlvs.length = .ok length := by
      cases length with
      | none => rfl
      | some length =>
        have small := (total length rfl).resolve_right bare
        have back : length.toNat + 4 + outerTlvs.length - (4 + outerTlvs.length) = length.toNat := by omega
        rw [Option.map_some, reduceMessageLength, UInt32.toNat_ofNat_of_lt' small, if_neg (by omega), back,
          UInt32.ofNat_toNat]
    simp only [toEapData, masked, present, Bool.false_eq_true, if_false, longer, List.append_assoc]
    rw [fromEapData_outer (by rw [read]; exact taken) outer (by rw [read]; exact whole bare) counted parsed reduced,
      read, versioned]

end TeapPacket

/-- Messages are read as they were written: lists of TLVs, the octets they are
read from, and packets. -/
theorem teap_roundtrip (tlvs : List TeapTlv) (data : Octets) :
    ((∀ tlv ∈ tlvs, tlv.tlvType ≤ 0x3fff ∧ tlv.value.length ≤ 65535) →
      parseTlvs (encodeTlvs tlvs) = .ok tlvs) ∧
    (parseTlvs data = .ok tlvs → data = encodeTlvs tlvs) ∧
    ∀ packet, TeapPacket.fromEapData data = .ok packet → TeapPacket.fromEapData packet.toEapData = .ok packet := by
  refine ⟨?_, ?_, ?_⟩
  · intro fits
    exact lawful.parse_encoded fun tlv member => ⟨(fits tlv member).1, (fits tlv member).2⟩
  · intro parsed
    exact (lawful.parse_sound parsed).2
  · intro packet read
    exact TeapPacket.fromEapData_toEapData (TeapPacket.fromEapData_wellFormed read)

end UsgRadius.Eap
