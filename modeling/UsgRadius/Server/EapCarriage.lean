import UsgRadius.Server.EapReassembly

namespace UsgRadius.Server

open Data Eap Attribute

/-! An EAP packet on its way through a RADIUS packet: cut into EAP-Message
attributes, encoded, decoded and put together again. -/

def addEapToRadiusPacket (packet : Packet) (eap : EapPacket) : Except EapError Packet := do
  let attributes ← eapToRadiusAttributes eap
  return addAttributes packet attributes

section Pieces

variable {size count : Nat} {data : Octets}

theorem chunksFrom_flatten (positive : 0 < size) (enough : data.length ≤ count) :
    (chunksFrom size count data).flatten = data := by
  induction count generalizing data with
  | zero =>
    have nothing : data = [] := List.length_eq_zero_iff.mp (by omega)
    rw [nothing]
    rfl
  | succ count ih =>
    match data with
    | [] => rfl
    | octet :: rest =>
      have remaining : ((octet :: rest).drop size).length ≤ count := by
        rw [List.length_drop]
        omega
      rw [chunksFrom, List.flatten_cons, ih remaining, List.take_append_drop]

theorem chunksFrom_sizes (positive : 0 < size) {chunk : Octets} (member : chunk ∈ chunksFrom size count data) :
    chunk ≠ [] ∧ chunk.length ≤ size := by
  induction count generalizing data with
  | zero => cases member
  | succ count ih =>
    match data with
    | [] => cases member
    | octet :: rest =>
      rcases List.mem_cons.mp member with rfl | later
      · grind
      · exact ih later

def eapAttributes (eap : EapPacket) : List Attribute :=
  (chunks maxValueLength eap.toBytes).map fun chunk => ⟨AttributeType.eapMessage.asU8, chunk⟩

theorem eapToRadiusAttributes_eq (eap : EapPacket) : eapToRadiusAttributes eap = .ok (eapAttributes eap) := by
  have fits : ∀ chunk ∈ chunks maxValueLength eap.toBytes, chunk.length ≤ maxValueLength :=
    fun chunk member => (chunksFrom_sizes (by decide) member).2
  rw [eapToRadiusAttributes, eapAttributes]
  generalize chunks maxValueLength eap.toBytes = pieces at fits ⊢
  induction pieces with
  | nil => rfl
  | cons chunk rest ih =>
    have built : new AttributeType.eapMessage.asU8 chunk = .ok ⟨AttributeType.eapMessage.asU8, chunk⟩ :=
      new_eq_ok.mpr ⟨fits chunk List.mem_cons_self, rfl⟩
    rw [List.mapM_cons, built, ih fun other member => fits other (List.mem_cons_of_mem _ member)]
    rfl

theorem eapAttributes_sizes {eap : EapPacket} {attr : Attribute} (member : attr ∈ eapAttributes eap) :
    attr.attrType = AttributeType.eapMessage.asU8 ∧ attr.value ≠ [] ∧ attr.value.length ≤ 253 := by
  obtain ⟨chunk, cut, rfl⟩ := List.mem_map.mp member
  exact ⟨rfl, chunksFrom_sizes (by decide) cut⟩

theorem eapAttributes_view (eap : EapPacket) : (eapAttributes eap).flatMap eapView = eap.toBytes := by
  have whole := chunksFrom_flatten (show 0 < maxValueLength by decide) (Nat.le_refl eap.toBytes.length)
  rw [eapAttributes, List.flatMap_map]
  exact List.flatMap_id.trans whole

end Pieces

section Carriage

variable {eap : EapPacket} {packet : Packet} {others : List Attribute}

theorem eapOctets_length (packet : Packet) : (eapOctets packet).length ≤ packet.length := by
  have counted (attributes : List Attribute) :
      (attributes.flatMap eapView).length ≤ (attributes.map encodedLength).sum := by
    induction attributes with
    | nil => rfl
    | cons attr rest ih =>
      have own : (eapView attr).length ≤ attr.encodedLength := by
        unfold eapView
        split
        · simp [encodedLength]
        · simp
      rw [List.flatMap_cons, List.length_append, List.map_cons, List.sum_cons]
      omega
  rw [eapOctets_eq]
  exact (counted packet.attributes).trans (Nat.le_add_left _ _)

theorem merged_carries (formed : eap.WellFormed) (merged : Views.Merges (eapAttributes eap) others packet.attributes)
    (other : ∀ attr ∈ others, attr.attrType ≠ AttributeType.eapMessage.asU8) (small : packet.length ≤ 4096) :
    eapFromRadiusPacket packet = .ok (some eap) := by
  have blind : ∀ attr ∈ others, eapView attr = [] := fun attr member => if_neg (other attr member)
  have octets : eapOctets packet = eap.toBytes := by rw [eapOctets_eq, merged.flatMap blind, eapAttributes_view]
  have length := eapOctets_length packet
  rw [octets] at length
  rw [eapFromRadiusPacket_eq_some, octets]
  have read := EapPacket.fromBytes_toBytes formed (by omega) []
  rwa [List.append_nil] at read

theorem merged_encodable (merged : Views.Merges (eapAttributes eap) others packet.attributes)
    (fits : ∀ attr ∈ others, attr.Fits) (small : packet.length ≤ 4096) : packet.Encodable := by
  refine ⟨fun attr member => ?_, small⟩
  rcases merged.mem member with eapMessage | other
  · exact (eapAttributes_sizes eapMessage).2.2
  · exact fits attr other

end Carriage

theorem eap_carried (eap : EapPacket) (formed : eap.WellFormed) :
    ∃ pieces, eapToRadiusAttributes eap = .ok pieces ∧
      (∀ piece ∈ pieces, piece.attrType = AttributeType.eapMessage.asU8 ∧ piece.value ≠ [] ∧
        piece.value.length ≤ 253) ∧
      (∀ packet, addEapToRadiusPacket packet eap = .ok { packet with attributes := packet.attributes ++ pieces }) ∧
      ∀ (packet : Packet) (others : List Attribute), Views.Merges pieces others packet.attributes →
        (∀ attr ∈ others, attr.Fits ∧ attr.attrType ≠ AttributeType.eapMessage.asU8) → packet.length ≤ 4096 →
        ∃ bytes received, packet.encode = .ok bytes ∧ Packet.decode bytes = .ok received ∧
          eapFromRadiusPacket received = .ok (some eap) := by
  refine ⟨eapAttributes eap, eapToRadiusAttributes_eq eap, fun piece => eapAttributes_sizes, fun packet => ?_, ?_⟩
  · rw [addEapToRadiusPacket, eapToRadiusAttributes_eq, Results.ok_bind, addAttributes_eq]
    rfl
  · intro packet others merged other small
    have encodable := merged_encodable merged (fun attr member => (other attr member).1) small
    exact ⟨packet.bytes, packet, Packet.encode_eq_ok.mpr ⟨encodable, rfl⟩,
      Packet.decode_eq_ok.mpr ⟨encodable, List.prefix_rfl⟩,
      merged_carries formed merged (fun attr member => (other attr member).2) small⟩

/-- A response that takes two attributes. -/
def longIdentity : EapPacket :=
  { identityResponse with data := List.replicate 300 98 }

/-- A user's name in front of the EAP packet, and a port between its pieces. -/
def namedIdentity : Packet where
  code := .accessRequest
  identifier := 7
  authenticator := .fill 16 9
  attributes := ⟨AttributeType.userName.asU8, [98, 111, 98]⟩ :: (eapAttributes longIdentity).take 1 ++
    ⟨AttributeType.nasPort.asU8, [0, 0, 0, 1]⟩ :: (eapAttributes longIdentity).drop 1

theorem namedIdentity_carried : longIdentity.WellFormed ∧ (eapAttributes longIdentity).length = 2 ∧
    ∃ bytes received, namedIdentity.encode = .ok bytes ∧ Packet.decode bytes = .ok received ∧
      eapFromRadiusPacket received = .ok (some longIdentity) := by
  have formed : longIdentity.WellFormed := ⟨rfl, nofun⟩
  have length : (eapAttributes longIdentity).length = 2 := by decide +kernel
  obtain ⟨pieces, cut, _, _, carried⟩ := eap_carried longIdentity formed
  have whole : pieces = eapAttributes longIdentity := Except.ok.inj (cut.symm.trans (eapToRadiusAttributes_eq _))
  rw [whole] at carried
  have merged : Views.Merges (eapAttributes longIdentity)
      [⟨AttributeType.userName.asU8, [98, 111, 98]⟩, ⟨AttributeType.nasPort.asU8, [0, 0, 0, 1]⟩]
      namedIdentity.attributes := by
    obtain ⟨first, second, two⟩ := List.length_eq_two.mp length
    simp only [namedIdentity, two]
    exact .right (.left (.right (.left .nil)))
  exact ⟨formed, length, carried namedIdentity _ merged (by decide) (by decide +kernel)⟩

end UsgRadius.Server
