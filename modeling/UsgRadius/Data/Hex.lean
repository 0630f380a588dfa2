import UsgRadius.Data.Octets

namespace UsgRadius.Data

/-! Octets as text: two lowercase hexadecimal digits each. -/

namespace Hex

variable {data : Octets}

def digit (value : UInt8) : UInt8 :=
  if value < 10 then 48 + value else 87 + value

def digitValue (octet : UInt8) : Option UInt8 :=
  if 48 ≤ octet ∧ octet ≤ 57 then some (octet - 48)
  else if 97 ≤ octet ∧ octet ≤ 102 then some (octet - 87)
  else if 65 ≤ octet ∧ octet ≤ 70 then some (octet - 55)
  else none

def digits (octets : Octets) : Octets :=
  octets.flatMap fun (octet : UInt8) => [digit (octet >>> 4), digit (octet &&& 15)]

/-- The octet two characters stand for. A leading sign is taken too, as
`u8::from_str_radix` does. -/
def octetOf (high low : UInt8) : Option UInt8 :=
  match digitValue low with
  | none => none
  | some units =>
    if high = 43 then some units
    else (digitValue high).map fun sixteens => 16 * sixteens + units

/-- The octets that pairs of characters stand for; other pairs, and a last
character without a partner, are skipped. -/
def octets : Octets → Octets
  | high :: low :: rest => (octetOf high low).toList ++ octets rest
  | _ => []

/-- The digits are ASCII, so they are the text they spell. -/
def encode (data : Octets) : String :=
  String.ofList ((digits data).map fun octet => Char.ofNat octet.toNat)

/-! ## The text of octets stands for them -/

theorem octetOf_digits (octet : UInt8) : octetOf (digit (octet >>> 4)) (digit (octet &&& 15)) = some octet := by
  have table : ∀ code : Fin 256, octetOf (digit (UInt8.ofNat code >>> 4)) (digit (UInt8.ofNat code &&& 15)) =
      some (UInt8.ofNat code) := by decide +kernel
  simpa only [UInt8.ofNat_toNat] using table ⟨octet.toNat, octet.toNat_lt⟩

theorem octets_digits (data : Octets) : octets (digits data) = data := by
  induction data with
  | nil => rfl
  | cons octet rest ih =>
    have unfolded : digits (octet :: rest) = digit (octet >>> 4) :: digit (octet &&& 15) :: digits rest := rfl
    rw [unfolded, octets, octetOf_digits, ih]
    rfl

theorem digits_ascii {octet : UInt8} (member : octet ∈ digits data) : octet.toNat < 128 := by
  have table : ∀ value : Fin 256, (digit (UInt8.ofNat value >>> 4)).toNat < 128 ∧
      (digit (UInt8.ofNat value &&& 15)).toNat < 128 := by decide +kernel
  obtain ⟨source, _, spelt⟩ := List.mem_flatMap.mp member
  have small := table ⟨source.toNat, source.toNat_lt⟩
  simp only [UInt8.ofNat_toNat] at small
  rcases List.mem_pair.mp spelt with rfl | rfl
  · exact small.1
  · exact small.2

theorem utf8_ascii (ascii : ∀ octet ∈ data, octet.toNat < 128) :
    utf8 (String.ofList (data.map fun octet => Char.ofNat octet.toNat)) = data := by
  have table : ∀ code : Fin 128, String.utf8EncodeChar (Char.ofNat code) = [UInt8.ofNat code] := by decide +kernel
  rw [utf8, String.toByteArray_ofList, List.utf8Encode, List.data_toByteArray, List.toList_toArray, List.flatMap_map]
  induction data with
  | nil => rfl
  | cons octet rest ih =>
    have own := table ⟨octet.toNat, ascii octet List.mem_cons_self⟩
    simp only [UInt8.ofNat_toNat] at own
    rw [List.flatMap_cons, own, ih fun other member => ascii other (List.mem_cons_of_mem _ member)]
    rfl

theorem octets_encode (data : Octets) : octets (utf8 (encode data)) = data := by
  rw [encode, utf8_ascii fun octet => digits_ascii, octets_digits]

theorem encode_inj {left right : Octets} (same : encode left = encode right) : left = right := by
  rw [← octets_encode left, same, octets_encode]

end Hex

end UsgRadius.Data
