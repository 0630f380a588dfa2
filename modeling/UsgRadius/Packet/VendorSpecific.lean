import UsgRadius.Packet.Codec

namespace UsgRadius

open Data AttributeType

/-- One vendor sub-attribute of a Vendor-Specific attribute. -/
structure VendorSpecific where
  vendorId : UInt32
  vendorType : UInt8
  value : Octets
deriving DecidableEq

namespace VendorSpecific

def vendorIdLength : Nat := 4
def subHeaderLength : Nat := 2
def maxValueLength : Nat := Attribute.maxValueLength - vendorIdLength - subHeaderLength

def new (vendorId : UInt32) (vendorType : UInt8) (value : Octets) : Except PacketError VendorSpecific :=
  if value.length > maxValueLength then
    .error (.attributeError
      s!"Vendor-Specific value too long: {value.length} bytes (max {maxValueLength})")
  else
    .ok { vendorId, vendorType, value }

def encodeSubAttribute (sub : VendorSpecific) : Octets :=
  sub.vendorType :: UInt8.ofNat (subHeaderLength + sub.value.length) :: sub.value

/-- `vendor_id.to_be_bytes()`. -/
def idBytes (vendorId : UInt32) : Octets :=
  toBe vendorIdLength vendorId.toNat

def encodeValue (sub : VendorSpecific) : Octets :=
  idBytes sub.vendorId ++ sub.encodeSubAttribute

def toAttribute (sub : VendorSpecific) : Except PacketError Attribute :=
  Attribute.new vendorSpecific.asU8 sub.encodeValue

/-- The loop of `to_attribute_combined`: it stops at the first sub-attribute of
another vendor. -/
def combineSubAttributes (firstVendor : UInt32) : List VendorSpecific → Except PacketError Octets
  | [] => .ok []
  | sub :: rest =>
    if sub.vendorId ≠ firstVendor then
      .error (.attributeError
        s!"Cannot combine sub-attributes of vendors {firstVendor} and {sub.vendorId}")
    else do
      let tail ← combineSubAttributes firstVendor rest
      return sub.encodeSubAttribute ++ tail

def toAttributeCombined : List VendorSpecific → Except PacketError Attribute
  | [] => .error (.attributeError "Vendor-Specific attribute needs at least one sub-attribute")
  | first :: rest => do
    let encoded ← combineSubAttributes first.vendorId (first :: rest)
    Attribute.new vendorSpecific.asU8 (idBytes first.vendorId ++ encoded)

/-- One round of the loop of `decode_value`. -/
def decodeSubAttribute (vendorId : UInt32) (rest : Octets) : Except PacketError VendorSpecific :=
  if rest.length < subHeaderLength then
    .error (.attributeError "Truncated Vendor-Specific sub-attribute header")
  else
    let vendorType := rest.getD 0 0
    let vendorLength := (rest.getD 1 0).toNat
    if vendorLength < subHeaderLength ∨ vendorLength > rest.length then
      .error (.attributeError
        s!"Invalid Vendor-Specific sub-attribute length: {vendorLength} (remaining {rest.length})")
    else
      .ok { vendorId, vendorType, value := (rest.take vendorLength).drop subHeaderLength }

def encodedLength (sub : VendorSpecific) : Nat :=
  subHeaderLength + sub.value.length

def decodeValue (value : Octets) : Except PacketError (List VendorSpecific) :=
  if value.length < vendorIdLength + subHeaderLength then
    .error (.attributeError s!"Vendor-Specific value too short: {value.length} bytes")
  else
    let vendorId := UInt32.ofNat (fromBe (value.take vendorIdLength))
    Framing.parse (decodeSubAttribute vendorId) encodedLength (value.drop vendorIdLength)

def fromAttribute (attr : Attribute) : Except PacketError (List VendorSpecific) :=
  if attr.attrType ≠ vendorSpecific.asU8 then
    .error (.attributeError
      s!"Expected Vendor-Specific (26) attribute, got type {attr.attrType}")
  else
    decodeValue attr.value

end VendorSpecific

/-- All sub-attributes of one vendor and vendor type, in wire order; malformed
Vendor-Specific attributes are skipped. -/
def Packet.findVendorAttributes (packet : Packet) (vendorId : UInt32) (vendorType : UInt8) :
    List VendorSpecific :=
  (((packet.attributes.filter (·.attrType = vendorSpecific.asU8)).filterMap
    fun attr => (VendorSpecific.decodeValue attr.value).toOption).flatten).filter
      fun sub => sub.vendorId = vendorId ∧ sub.vendorType = vendorType

namespace VendorSpecific

variable {vendorId : UInt32} {sub : VendorSpecific} {subs : List VendorSpecific} {value octets : Octets}

/-- A sub-attribute of the given vendor that fits its length octet. -/
def Fits (vendorId : UInt32) (sub : VendorSpecific) : Prop :=
  sub.vendorId = vendorId ∧ sub.value.length ≤ 253

@[simp] theorem encodeSubAttribute_length (sub : VendorSpecific) :
    sub.encodeSubAttribute.length = sub.encodedLength := by
  simp only [encodeSubAttribute, encodedLength, subHeaderLength, List.length_cons]
  omega

theorem decodeSubAttribute_sound {rest : Octets} (decoded : decodeSubAttribute vendorId rest = .ok sub) :
    Fits vendorId sub ∧ sub.encodeSubAttribute <+: rest := by
  match rest, decoded with
  | [], decoded => simp [decodeSubAttribute, subHeaderLength] at decoded
  | [_], decoded => simp [decodeSubAttribute, subHeaderLength] at decoded
  | vendorType :: length :: rest, decoded =>
    simp only [decodeSubAttribute, List.getD_cons_zero, List.getD_cons_succ] at decoded
    split at decoded
    · cases decoded
    · split at decoded
      · cases decoded
      · rename_i inRange
        cases decoded
        have bound := UInt8.toNat_lt length
        simp only [subHeaderLength, List.length_cons] at inRange
        have value : ((vendorType :: length :: rest).take length.toNat).drop 2 =
            rest.take (length.toNat - 2) := by
          rw [List.drop_take]
          rfl
        have size : (rest.take (length.toNat - 2)).length = length.toNat - 2 := by
          rw [List.length_take]
          omega
        have lengthOctet : UInt8.ofNat (2 + (length.toNat - 2)) = length := by
          apply UInt8.toNat_inj.mp
          simp only [UInt8.toNat_ofNat', Nat.reducePow]
          omega
        refine ⟨⟨rfl, ?_⟩, rest.drop (length.toNat - 2), ?_⟩
        · simp only [subHeaderLength, value, size]
          omega
        · simp only [encodeSubAttribute, subHeaderLength, value, size, lengthOctet, List.cons_append,
            List.take_append_drop]

theorem decodeSubAttribute_complete (rest : Octets) (fits : Fits vendorId sub) :
    decodeSubAttribute vendorId (sub.encodeSubAttribute ++ rest) = .ok sub := by
  obtain ⟨sameVendor, small⟩ := fits
  have length : (UInt8.ofNat sub.encodedLength).toNat = sub.encodedLength := by
    simp only [encodedLength, subHeaderLength, UInt8.toNat_ofNat', Nat.reducePow]
    omega
  have header : ¬ (sub.encodeSubAttribute ++ rest).length < subHeaderLength := by
    simp only [List.length_append, encodeSubAttribute_length, encodedLength]
    omega
  have inRange : ¬ (sub.encodedLength < subHeaderLength ∨
      sub.encodedLength > (sub.encodeSubAttribute ++ rest).length) := by
    simp only [List.length_append, encodeSubAttribute_length, encodedLength]
    omega
  have lengthField : (sub.encodeSubAttribute ++ rest).getD 1 0 = UInt8.ofNat sub.encodedLength := rfl
  have value : ((sub.encodeSubAttribute ++ rest).take sub.encodedLength).drop subHeaderLength = sub.value := by
    rw [List.take_left' sub.encodeSubAttribute_length]
    rfl
  simp only [decodeSubAttribute, if_neg header, lengthField, length, if_neg inRange, value]
  rw [← sameVendor]
  rfl

theorem lawful (vendorId : UInt32) :
    Framing.Lawful (decodeSubAttribute vendorId) encodedLength encodeSubAttribute (Fits vendorId) where
  sound := decodeSubAttribute_sound
  complete := decodeSubAttribute_complete
  width_eq := fun sub => sub.encodeSubAttribute_length.symm
  progress := fun sub => by simp [encodedLength, subHeaderLength]

/-- The value of a Vendor-Specific attribute that carries `subs`. -/
def combinedValue (vendorId : UInt32) (subs : List VendorSpecific) : Octets :=
  idBytes vendorId ++ subs.flatMap encodeSubAttribute

@[simp] theorem idBytes_length (vendorId : UInt32) : (idBytes vendorId).length = 4 :=
  toBe_length 4 _

theorem fromBe_idBytes (vendorId : UInt32) : UInt32.ofNat (fromBe (idBytes vendorId)) = vendorId := by
  rw [idBytes, fromBe_toBe_of_lt (UInt32.toNat_lt vendorId), UInt32.ofNat_toNat]

theorem idBytes_fromBe (size : octets.length = 4) : idBytes (UInt32.ofNat (fromBe octets)) = octets := by
  have bound : fromBe octets < 2 ^ 32 := by
    have general := fromBe_lt octets
    rwa [size] at general
  have exact := toBe_fromBe octets
  rw [size] at exact
  rw [idBytes, UInt32.toNat_ofNat_of_lt' bound]
  exact exact

theorem flatMap_encodeSubAttribute_length (subs : List VendorSpecific) :
    (subs.flatMap encodeSubAttribute).length = (subs.map encodedLength).sum := by
  simp [List.length_flatMap]

/-- A value decodes exactly when it is a Vendor-Id followed by at least one
well-formed sub-attribute of that vendor, and nothing else. -/
theorem decodeValue_sound (decoded : decodeValue value = .ok subs) :
    ∃ vendorId, subs ≠ [] ∧ (∀ sub ∈ subs, Fits vendorId sub) ∧ value = combinedValue vendorId subs := by
  unfold decodeValue at decoded
  split at decoded
  · cases decoded
  · rename_i long
    simp only [vendorIdLength, subHeaderLength] at long decoded
    obtain ⟨fits, tiled⟩ := (lawful _).parse_sound decoded
    have size : (value.take 4).length = 4 := by
      rw [List.length_take]
      omega
    refine ⟨_, ?_, fits, ?_⟩
    · intro none
      have empty := congrArg List.length tiled
      simp only [none, List.flatMap_nil, List.length_nil, List.length_drop] at empty
      omega
    · rw [combinedValue, idBytes_fromBe size, ← tiled, List.take_append_drop]

theorem decodeValue_complete (present : subs ≠ []) (fits : ∀ sub ∈ subs, Fits vendorId sub) :
    decodeValue (combinedValue vendorId subs) = .ok subs := by
  have long : ¬ (combinedValue vendorId subs).length < vendorIdLength + subHeaderLength := by
    obtain ⟨first, rest, rfl⟩ := List.exists_cons_of_ne_nil present
    simp only [combinedValue, List.length_append, idBytes_length, flatMap_encodeSubAttribute_length,
      List.map_cons, List.sum_cons, encodedLength, vendorIdLength, subHeaderLength]
    omega
  have vendor : (combinedValue vendorId subs).take vendorIdLength = idBytes vendorId :=
    List.take_left' (idBytes_length vendorId)
  have rest : (combinedValue vendorId subs).drop vendorIdLength = subs.flatMap encodeSubAttribute :=
    List.drop_left' (idBytes_length vendorId)
  simp only [decodeValue, if_neg long, vendor, rest, fromBe_idBytes]
  exact (lawful vendorId).parse_encoded fits

theorem combineSubAttributes_of_fits (fits : ∀ sub ∈ subs, Fits vendorId sub) :
    combineSubAttributes vendorId subs = .ok (subs.flatMap encodeSubAttribute) := by
  induction subs with
  | nil => rfl
  | cons sub rest ih =>
    obtain ⟨own, others⟩ := List.forall_mem_cons.mp fits
    simp only [combineSubAttributes, own.1, ne_eq, not_true, if_false, ih others]
    rfl

theorem toAttributeCombined_of_fits (present : subs ≠ []) (fits : ∀ sub ∈ subs, Fits vendorId sub)
    (small : (combinedValue vendorId subs).length ≤ Attribute.maxValueLength) :
    toAttributeCombined subs =
      .ok ⟨vendorSpecific.asU8, combinedValue vendorId subs⟩ := by
  obtain ⟨first, rest, rfl⟩ := List.exists_cons_of_ne_nil present
  have vendor : first.vendorId = vendorId := (fits first List.mem_cons_self).1
  simp only [toAttributeCombined, vendor, combineSubAttributes_of_fits fits, Results.ok_bind]
  exact Attribute.new_eq_ok.mpr ⟨small, rfl⟩

theorem combineSubAttributes_ok (combined : combineSubAttributes vendorId subs = .ok octets) :
    octets = subs.flatMap encodeSubAttribute ∧
      ∀ sub ∈ subs, sub.vendorId = vendorId ∧ sub.encodedLength ≤ octets.length := by
  induction subs generalizing octets with
  | nil =>
    cases combined
    exact ⟨rfl, List.forall_mem_nil _⟩
  | cons sub rest ih =>
    simp only [combineSubAttributes] at combined
    split at combined
    · cases combined
    · rename_i same
      obtain ⟨tail, combinedRest, joined⟩ := Results.bind_eq_ok.mp combined
      cases joined
      obtain ⟨rfl, others⟩ := ih combinedRest
      refine ⟨rfl, List.forall_mem_cons.mpr ⟨⟨not_not.mp same, ?_⟩, ?_⟩⟩
      · simp only [List.length_append, encodeSubAttribute_length]
        omega
      · grind

theorem toAttributeCombined_ok {attr : Attribute} (combined : toAttributeCombined subs = .ok attr) :
    ∃ vendorId, subs ≠ [] ∧ (∀ sub ∈ subs, Fits vendorId sub) ∧
      attr = ⟨vendorSpecific.asU8, combinedValue vendorId subs⟩ := by
  cases subs with
  | nil => cases combined
  | cons first rest =>
    obtain ⟨octets, joined, wrapped⟩ := Results.bind_eq_ok.mp combined
    obtain ⟨tiled, each⟩ := combineSubAttributes_ok joined
    obtain ⟨small, rfl⟩ := Attribute.new_eq_ok.mp wrapped
    refine ⟨first.vendorId, List.cons_ne_nil _ _, ?_, by rw [tiled, combinedValue]⟩
    intro sub member
    obtain ⟨vendor, short⟩ := each sub member
    simp only [List.length_append, idBytes_length, Attribute.maxValueLength] at small
    simp only [encodedLength, subHeaderLength] at short
    exact ⟨vendor, by omega⟩

/-- Sub-attributes that are combined are read back, and an attribute that is
read is combined to the same octets. -/
theorem combined_roundtrip (subs : List VendorSpecific) :
    (∀ attr, toAttributeCombined subs = .ok attr → fromAttribute attr = .ok subs) ∧
    ∀ value : Octets, value.length ≤ 253 → decodeValue value = .ok subs →
      toAttributeCombined subs = .ok ⟨vendorSpecific.asU8, value⟩ := by
  refine ⟨?_, ?_⟩
  · intro attr combined
    obtain ⟨vendorId, present, fits, rfl⟩ := toAttributeCombined_ok combined
    rw [fromAttribute, if_neg (not_not.mpr rfl), decodeValue_complete present fits]
  · intro value small decoded
    obtain ⟨vendorId, present, fits, rfl⟩ := decodeValue_sound decoded
    exact toAttributeCombined_of_fits present fits small

end VendorSpecific

end UsgRadius
