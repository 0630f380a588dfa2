import UsgRadius.Data.Octets

namespace UsgRadius.Data.XorChain

/-! Block chaining by xor: every block is masked with a pad, and the pad of
the next block is computed from this block's ciphertext. -/

variable {size count : Nat} {next : Octets → Block size} {pad : Block size} {text : Octets}

def encrypt (next : Octets → Block size) : Nat → Block size → Octets → Octets
  | 0, _, _ => []
  | count + 1, pad, text =>
    let cipher := xor (text.take size) pad.octets
    cipher ++ encrypt next count (next cipher) (text.drop size)

def decrypt (next : Octets → Block size) : Nat → Block size → Octets → Octets
  | 0, _, _ => []
  | count + 1, pad, cipher =>
    let block := cipher.take size
    xor block pad.octets ++ decrypt next count (next block) (cipher.drop size)

theorem drop_aligned (aligned : text.length = (count + 1) * size) :
    text.length = count * size + size ∧ (text.drop size).length = count * size := by
  have blocks : text.length = count * size + size := by rw [aligned, Nat.add_one_mul]
  exact ⟨blocks, by rw [List.length_drop, blocks, Nat.add_sub_cancel]⟩

theorem encrypt_length (aligned : text.length = count * size) : (encrypt next count pad text).length = text.length := by
  induction count generalizing pad text with
  | zero => simp_all [encrypt]
  | succ count ih =>
    obtain ⟨blocks, rest⟩ := drop_aligned aligned
    simp only [encrypt, List.length_append, xor_length, List.length_take, Block.size, ih rest, rest]
    omega

theorem decrypt_length {cipher : Octets} (aligned : cipher.length = count * size) :
    (decrypt next count pad cipher).length = cipher.length := by
  induction count generalizing pad cipher with
  | zero => simp_all [decrypt]
  | succ count ih =>
    obtain ⟨blocks, rest⟩ := drop_aligned aligned
    simp only [decrypt, List.length_append, xor_length, List.length_take, Block.size, ih rest, rest]
    omega

theorem decrypt_encrypt (aligned : text.length = count * size) :
    decrypt next count pad (encrypt next count pad text) = text := by
  induction count generalizing pad text with
  | zero =>
    have empty : text = [] := List.length_eq_zero_iff.mp (by simpa using aligned)
    subst text
    rfl
  | succ count ih =>
    obtain ⟨blocks, rest⟩ := drop_aligned aligned
    have first : (xor (text.take size) pad.octets).length = size := by
      simp only [xor_length, List.length_take, Block.size]
      omega
    have covered : (text.take size).length ≤ pad.octets.length := by simp
    simp only [decrypt, encrypt, List.take_left' first, List.drop_left' first, xor_cancel covered,
      ih rest, List.take_append_drop]

end UsgRadius.Data.XorChain
