import Mathlib.Data.List.Basic
import Mathlib.Data.UInt
import Mathlib.Tactic.Ring

namespace UsgRadius.Data

/-! Octet strings: fixed-size blocks, big-endian integers, bytewise xor and
UTF-8 text. Nothing here knows about RADIUS. -/

abbrev Octets := List UInt8

/-- An array `[u8; n]`: exactly `n` octets. -/
structure Block (n : Nat) where
  octets : Octets
  size : octets.length = n
deriving DecidableEq

namespace Block

variable {n : Nat} {left right : Block n}

attribute [simp] Block.size

@[ext] theorem ext (same : left.octets = right.octets) : left = right := by
  cases left
  cases right
  cases same
  rfl

theorem octets_inj : left.octets = right.octets ↔ left = right :=
  ⟨ext, fun same => by rw [same]⟩

/-- `block[i]`. -/
def get (block : Block n) (index : Fin n) : UInt8 :=
  block.octets.get (index.cast block.size.symm)

theorem octets_eq_pair (block : Block 2) : block.octets = [block.get 0, block.get 1] := by
  obtain ⟨octets, size⟩ := block
  obtain ⟨first, second, rfl⟩ := List.length_eq_two.mp size
  rfl

/-- The array filled with one octet. -/
def fill (n : Nat) (octet : UInt8) : Block n :=
  ⟨List.replicate n octet, List.length_replicate⟩

abbrev zero (n : Nat) : Block n := fill n 0

instance : Inhabited (Block n) := ⟨zero n⟩

/-- `copy_from_slice`: the array a slice of the right length fills. -/
def ofOctets? (n : Nat) (octets : Octets) : Option (Block n) :=
  if size : octets.length = n then some ⟨octets, size⟩ else none

end Block

/-- The low `width` octets of `value`, most significant first. -/
def toBe : Nat → Nat → Octets
  | 0, _ => []
  | width + 1, value => UInt8.ofNat (value / 256 ^ width) :: toBe width value

def fromBe : Octets → Nat
  | [] => 0
  | octet :: rest => octet.toNat * 256 ^ rest.length + fromBe rest

@[simp] theorem toBe_length (width value : Nat) : (toBe width value).length = width := by
  induction width with
  | zero => rfl
  | succ width ih => simp [toBe, ih]

theorem fromBe_lt (octets : Octets) : fromBe octets < 256 ^ octets.length := by
  induction octets with
  | nil => simp [fromBe]
  | cons octet rest ih =>
    have high : octet.toNat + 1 ≤ 256 := UInt8.toNat_lt octet
    calc fromBe (octet :: rest) < octet.toNat * 256 ^ rest.length + 256 ^ rest.length := by
          simp only [fromBe]
          omega
      _ = (octet.toNat + 1) * 256 ^ rest.length := by ring
      _ ≤ 256 * 256 ^ rest.length := Nat.mul_le_mul_right _ high
      _ = 256 ^ (octet :: rest).length := by rw [List.length_cons, Nat.pow_succ']

theorem fromBe_toBe (width value : Nat) : fromBe (toBe width value) = value % 256 ^ width := by
  induction width with
  | zero => simp [toBe, fromBe, Nat.mod_one]
  | succ width ih =>
    simp only [toBe, fromBe, toBe_length, ih, UInt8.toNat_ofNat', Nat.reducePow]
    rw [Nat.pow_succ, Nat.mod_mul, Nat.mul_comm, Nat.add_comm]

variable {width : Nat}

theorem fromBe_toBe_of_lt {value : Nat} (bounded : value < 256 ^ width) : fromBe (toBe width value) = value := by
  rw [fromBe_toBe, Nat.mod_eq_of_lt bounded]

theorem toBe_fromBe_add (octets : Octets) (high : Nat) :
    toBe octets.length (high * 256 ^ octets.length + fromBe octets) = octets := by
  induction octets generalizing high with
  | nil => rfl
  | cons octet rest ih =>
    have carried : high * 256 ^ (rest.length + 1) + (octet.toNat * 256 ^ rest.length + fromBe rest) =
        (high * 256 + octet.toNat) * 256 ^ rest.length + fromBe rest := by ring
    simp only [List.length_cons, toBe, fromBe, carried, ih]
    have quotient : ((high * 256 + octet.toNat) * 256 ^ rest.length + fromBe rest) / 256 ^ rest.length =
        high * 256 + octet.toNat := by
      rw [Nat.mul_comm, Nat.mul_add_div (Nat.pow_pos (by decide)),
        Nat.div_eq_of_lt (fromBe_lt rest), Nat.add_zero]
    rw [quotient]
    congr 1
    apply UInt8.toNat_inj.mp
    have bound := UInt8.toNat_lt octet
    simp only [UInt8.toNat_ofNat', Nat.reducePow]
    omega

@[simp] theorem toBe_fromBe (octets : Octets) : toBe octets.length (fromBe octets) = octets := by
  simpa using toBe_fromBe_add octets 0

theorem toBe_inj {left right : Nat} (leftBound : left < 256 ^ width) (rightBound : right < 256 ^ width)
    (same : toBe width left = toBe width right) : left = right := by
  rw [← fromBe_toBe_of_lt leftBound, same, fromBe_toBe_of_lt rightBound]

def xor (left right : Octets) : Octets :=
  List.zipWith (· ^^^ ·) left right

@[simp] theorem xor_length (left right : Octets) : (xor left right).length = min left.length right.length := by
  simp [xor]

theorem xor_cancel {text pad : Octets} (covered : text.length ≤ pad.length) : xor (xor text pad) pad = text := by
  induction text generalizing pad with
  | nil => simp [xor]
  | cons octet rest ih =>
    cases pad with
    | nil => simp at covered
    | cons mask masks =>
      have tail := @ih masks (by simpa using covered)
      simp only [xor, List.zipWith_cons_cons, UInt8.xor_assoc, UInt8.xor_self, UInt8.xor_zero] at tail ⊢
      rw [tail]

/-- `Vec::resize(length, 0)`. -/
def resize (data : Octets) (length : Nat) : Octets :=
  data.take length ++ List.replicate (length - data.length) 0

@[simp] theorem resize_length (data : Octets) (length : Nat) : (resize data length).length = length := by
  simp only [resize, List.length_append, List.length_take, List.length_replicate]
  omega

theorem resize_of_le {data : Octets} {length : Nat} (grows : data.length ≤ length) :
    resize data length = data ++ List.replicate (length - data.length) 0 := by
  rw [resize, List.take_of_length_le grows]

/-- `str::as_bytes`. -/
def utf8 (text : String) : Octets :=
  text.toByteArray.data.toList

/-- `String::from_utf8`. -/
def fromUtf8 (octets : Octets) : Option String :=
  String.fromUTF8? ⟨octets.toArray⟩

theorem fromUtf8_eq_some {octets : Octets} {text : String} : fromUtf8 octets = some text ↔ utf8 text = octets := by
  unfold fromUtf8 utf8 String.fromUTF8?
  constructor
  · intro decoded
    split at decoded
    · cases decoded
      rfl
    · cases decoded
  · intro encoded
    subst octets
    have valid : (ByteArray.mk text.toByteArray.data.toList.toArray).IsValidUTF8 := text.isValidUTF8
    rw [dif_pos valid, Option.some.injEq, ← String.toByteArray_inj]
    rfl

@[simp] theorem fromUtf8_utf8 (text : String) : fromUtf8 (utf8 text) = some text :=
  fromUtf8_eq_some.mpr rfl

end UsgRadius.Data
