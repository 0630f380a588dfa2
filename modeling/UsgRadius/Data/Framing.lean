import UsgRadius.Data.Octets
import UsgRadius.Data.Results

namespace UsgRadius.Data

/-! A stream of self-delimiting items: the loop that decodes one item, moves
past it and goes on until the octets run out. -/

namespace Framing

variable {Item Failure : Type} {decode : Octets → Except Failure Item} {width : Item → Nat}

/-- The loop with an offset: `skip` octets of the current item are still to be
passed over before the next one is decoded. -/
def parseFrom (decode : Octets → Except Failure Item) (width : Item → Nat) :
    Nat → Octets → Except Failure (List Item)
  | _, [] => .ok []
  | skip + 1, _ :: rest => parseFrom decode width skip rest
  | 0, octet :: rest => do
    let item ← decode (octet :: rest)
    let items ← parseFrom decode width (width item - 1) rest
    return item :: items

/-- `while offset < len { item = decode(&data[offset..])?; offset += width(item) }`. -/
def parse (decode : Octets → Except Failure Item) (width : Item → Nat) (data : Octets) :
    Except Failure (List Item) :=
  parseFrom decode width 0 data

theorem parseFrom_eq_parse_drop (skip : Nat) (data : Octets) :
    parseFrom decode width skip data = parse decode width (data.drop skip) := by
  induction data generalizing skip with
  | nil => simp [parse, parseFrom]
  | cons octet rest ih =>
    cases skip with
    | zero => rfl
    | succ skip => simpa [parseFrom] using ih skip

theorem parse_cons {data : Octets} (present : data ≠ []) (progress : ∀ item, 0 < width item) :
    parse decode width data = (do
      let item ← decode data
      let items ← parse decode width (data.drop (width item))
      return item :: items) := by
  cases data with
  | nil => exact absurd rfl present
  | cons octet rest =>
    have advance (item : Item) : parseFrom decode width (width item - 1) rest =
        parse decode width ((octet :: rest).drop (width item)) := by
      rw [parseFrom_eq_parse_drop]
      obtain ⟨extra, wide⟩ := Nat.exists_eq_add_of_lt (progress item)
      simp [wide]
    simp only [parse, parseFrom, advance]

/-- What a decoder of single items owes the loop: it accepts exactly the
encodings of valid items, looks no further than their end, and moves on. -/
structure Lawful (decode : Octets → Except Failure Item) (width : Item → Nat)
    (encode : Item → Octets) (Valid : Item → Prop) : Prop where
  sound : ∀ {data item}, decode data = .ok item → Valid item ∧ encode item <+: data
  complete : ∀ {item} (rest), Valid item → decode (encode item ++ rest) = .ok item
  width_eq : ∀ item, width item = (encode item).length
  progress : ∀ item, 0 < width item

namespace Lawful

variable {encode : Item → Octets} {Valid : Item → Prop} {items : List Item} {data : Octets}

section

variable (lawful : Lawful decode width encode Valid)

include lawful

theorem parse_append {item : Item} (valid : Valid item) (rest : Octets) :
    parse decode width (encode item ++ rest) = (parse decode width rest).map (item :: ·) := by
  have present : encode item ++ rest ≠ [] := by
    have := lawful.progress item
    rw [lawful.width_eq item] at this
    simp [List.ne_nil_of_length_pos this]
  rw [parse_cons present lawful.progress, lawful.complete rest valid, Results.ok_bind,
    lawful.width_eq item, List.drop_left]
  cases parse decode width rest <;> rfl

theorem parse_encoded (valid : ∀ item ∈ items, Valid item) :
    parse decode width (items.flatMap encode) = .ok items := by
  induction items with
  | nil => rfl
  | cons item rest ih =>
    rw [List.flatMap_cons, lawful.parse_append (valid item List.mem_cons_self),
      ih fun other member => valid other (List.mem_cons_of_mem _ member)]
    rfl

theorem parse_ok_cons (present : data ≠ [])
    (parsed : parse decode width data = .ok items) :
    ∃ item rest tail, items = item :: rest ∧ Valid item ∧ data = encode item ++ tail ∧
      parse decode width tail = .ok rest := by
  rw [parse_cons present lawful.progress, Results.bind_eq_ok] at parsed
  obtain ⟨item, decoded, following⟩ := parsed
  obtain ⟨valid, tail, rfl⟩ := lawful.sound decoded
  rw [lawful.width_eq item, List.drop_left, Results.bind_eq_ok] at following
  obtain ⟨rest, remaining, assembled⟩ := following
  cases assembled
  exact ⟨item, rest, tail, rfl, valid, rfl, remaining⟩

theorem parse_sound (parsed : parse decode width data = .ok items) :
    (∀ item ∈ items, Valid item) ∧ data = items.flatMap encode := by
  induction items generalizing data with
  | nil =>
    by_cases present : data = []
    · simp [present]
    · obtain ⟨_, _, _, impossible, _⟩ := lawful.parse_ok_cons present parsed
      cases impossible
  | cons item rest ih =>
    have present : data ≠ [] := by
      intro empty
      subst data
      cases parsed
    obtain ⟨_, _, tail, same, valid, split, remaining⟩ := lawful.parse_ok_cons present parsed
    cases same
    obtain ⟨others, encoded⟩ := ih remaining
    refine ⟨List.forall_mem_cons.mpr ⟨valid, others⟩, ?_⟩
    rw [split, encoded, List.flatMap_cons]

/-- The loop succeeds exactly on the concatenations of encodings of valid
items, and gives those items back. -/
theorem parse_eq_ok_iff :
    parse decode width data = .ok items ↔
      (∀ item ∈ items, Valid item) ∧ data = items.flatMap encode :=
  ⟨lawful.parse_sound, fun ⟨valid, encoded⟩ => encoded ▸ lawful.parse_encoded valid⟩

end

end Lawful

end Framing

end UsgRadius.Data
