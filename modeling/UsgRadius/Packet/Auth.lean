import UsgRadius.Data.XorChain
import UsgRadius.Packet.Codec
import Mathlib.Data.List.DropRight
import Mathlib.Data.List.Forall2

namespace UsgRadius

open Data

/-- The hash functions the protocol is built on: any functions with the right
output size. -/
structure Digests where
  md5 : Octets → Block 16
  hmacMd5 : (secret data : Octets) → Block 16

/-- An octet sum in the place of the hashes, for running the model on concrete
packets. -/
def Digests.checksum : Digests where
  md5 := fun data => Block.fill 16 data.sum
  hmacMd5 := fun secret data => Block.fill 16 (secret.sum + data.sum)

/-- A Rust panic, as raised by `expect`. -/
structure Panic where
  message : String
deriving DecidableEq

namespace Auth

variable (digests : Digests)

/-- `attr.encode().expect(..)` for each attribute in turn. -/
def encodeOrPanic (attributes : List Attribute) : Except Panic Octets :=
  match Packet.encodeAttributes attributes with
  | .ok octets => .ok octets
  | .error _ => .error ⟨"Failed to encode attribute"⟩

def calculateResponseAuthenticator (packet : Packet) (requestAuthenticator : Block 16)
    (secret : Octets) : Except Panic (Block 16) := do
  let length := packet.length
  let attributes ← encodeOrPanic packet.attributes
  return digests.md5 ([packet.code.asU8, packet.identifier, UInt8.ofNat (length >>> 8),
    UInt8.ofNat (length &&& 0xff)] ++ requestAuthenticator.octets ++ attributes ++ secret)

def constantTimeEq (left right : Octets) : Bool :=
  if left.length ≠ right.length then
    false
  else
    (left.zip right).foldl (fun diff pair => diff ||| (pair.1 ^^^ pair.2)) 0 == 0

def verifyResponseAuthenticator (response : Packet) (requestAuthenticator : Block 16)
    (secret : Octets) : Except Panic Bool := do
  let calculated ← calculateResponseAuthenticator digests response requestAuthenticator secret
  return constantTimeEq response.authenticator.octets calculated.octets

/-- The same hash with zeros in the place of an authenticator. -/
def calculateAccountingRequestAuthenticator (packet : Packet) (secret : Octets) : Except Panic (Block 16) :=
  calculateResponseAuthenticator digests packet (.zero 16) secret

def verifyAccountingRequestAuthenticator (packet : Packet) (secret : Octets) : Except Panic Bool := do
  let calculated ← calculateAccountingRequestAuthenticator digests packet secret
  return constantTimeEq packet.authenticator.octets calculated.octets

def padPassword (passwordBytes : Octets) : Octets :=
  let paddingNeeded := (16 - passwordBytes.length % 16) % 16
  let padded :=
    if paddingNeeded > 0 ∨ passwordBytes = [] then
      resize passwordBytes (passwordBytes.length + paddingNeeded)
    else
      passwordBytes
  if padded = [] then resize padded 16 else padded

def encryptUserPassword (password : String) (secret : Octets) (authenticator : Block 16) : Octets :=
  let padded := padPassword (utf8 password)
  XorChain.encrypt (fun previousBlock => digests.md5 (secret ++ previousBlock)) (padded.length / 16)
    (digests.md5 (secret ++ authenticator.octets)) padded

/-- The two ways `decrypt_user_password` fails: a length that is not whole
blocks, or a plaintext that is not UTF-8. -/
inductive PasswordError where
  | invalidLength
  | invalidUtf8
deriving DecidableEq

def decryptUserPassword (encrypted secret : Octets) (authenticator : Block 16) :
    Except PasswordError String :=
  if encrypted.length % 16 ≠ 0 ∨ encrypted = [] then
    .error .invalidLength
  else
    let result := XorChain.decrypt (fun previousBlock => digests.md5 (secret ++ previousBlock))
      (encrypted.length / 16) (digests.md5 (secret ++ authenticator.octets)) encrypted
    match fromUtf8 (result.rdropWhile (· == 0)) with
    | some password => .ok password
    | none => .error .invalidUtf8

section ResponseAuthenticator

variable {digests}

theorem or_eq_zero {left right : UInt8} : left ||| right = 0 ↔ left = 0 ∧ right = 0 := by
  simp only [← UInt8.toBitVec_inj, UInt8.toBitVec_or]
  exact BitVec.or_eq_zero_iff

theorem differences_eq_zero (pairs : List (UInt8 × UInt8)) (diff : UInt8) :
    pairs.foldl (fun diff pair => diff ||| (pair.1 ^^^ pair.2)) diff = 0 ↔
      diff = 0 ∧ ∀ pair ∈ pairs, pair.1 = pair.2 := by
  induction pairs generalizing diff with
  | nil => simp
  | cons pair rest ih =>
    simp only [List.foldl_cons, ih, or_eq_zero, UInt8.xor_eq_zero_iff, List.forall_mem_cons, and_assoc]

theorem constantTimeEq_iff {left right : Octets} : constantTimeEq left right = true ↔ left = right := by
  unfold constantTimeEq
  split
  · grind
  · rename_i lengths
    rw [beq_iff_eq, differences_eq_zero]
    have lengths := not_not.mp lengths
    have pointwise : (∀ pair ∈ left.zip right, pair.1 = pair.2) ↔ left = right := by
      rw [← List.forall₂_eq_eq_eq, List.forall₂_iff_zip]
      simp [lengths, Prod.forall]
    rw [pointwise, eq_self, true_and]

def responseDigest (digests : Digests) (packet : Packet) (requestAuthenticator : Block 16)
    (secret : Octets) : Block 16 :=
  digests.md5 ([packet.code.asU8, packet.identifier, UInt8.ofNat (packet.length >>> 8),
    UInt8.ofNat (packet.length &&& 0xff)] ++ requestAuthenticator.octets ++
    packet.attributes.flatMap Attribute.bytes ++ secret)

theorem calculateResponseAuthenticator_of_fits {packet : Packet} (requestAuthenticator : Block 16)
    (secret : Octets) (fits : ∀ attr ∈ packet.attributes, attr.Fits) :
    calculateResponseAuthenticator digests packet requestAuthenticator secret =
      .ok (responseDigest digests packet requestAuthenticator secret) := by
  simp only [calculateResponseAuthenticator, encodeOrPanic, Packet.encodeAttributes_eq_ok.mpr ⟨fits, rfl⟩]
  rfl

theorem verifyResponseAuthenticator_of_fits {response : Packet} (requestAuthenticator : Block 16)
    (secret : Octets) (fits : ∀ attr ∈ response.attributes, attr.Fits) :
    verifyResponseAuthenticator digests response requestAuthenticator secret =
      .ok (decide (response.authenticator = responseDigest digests response requestAuthenticator secret)) := by
  have compared (calculated : Block 16) :
      constantTimeEq response.authenticator.octets calculated.octets =
        decide (response.authenticator = calculated) := by
    rw [Bool.eq_iff_iff, constantTimeEq_iff, Block.octets_inj, decide_eq_true_iff]
  simp only [verifyResponseAuthenticator, calculateResponseAuthenticator_of_fits _ _ fits,
    Results.ok_bind, compared, Results.pure_eq]

@[simp] theorem responseDigest_authenticator (packet : Packet) (own requestAuthenticator : Block 16) (secret : Octets) :
    responseDigest digests { packet with authenticator := own } requestAuthenticator secret =
      responseDigest digests packet requestAuthenticator secret := rfl

theorem responseDigest_eq (packet : Packet) (requestAuthenticator : Block 16) (secret : Octets) :
    responseDigest digests packet requestAuthenticator secret =
      digests.md5 ({ packet with authenticator := requestAuthenticator }.bytes ++ secret) := by
  have low : UInt8.ofNat (packet.length &&& 0xff) = UInt8.ofNat packet.length := by
    apply UInt8.toNat_inj.mp
    have masked : packet.length &&& 0xff = packet.length % 256 := Nat.and_two_pow_sub_one_eq_mod packet.length 8
    simp [masked]
  have same : { packet with authenticator := requestAuthenticator }.length = packet.length := rfl
  simp [responseDigest, Packet.bytes, toBe, low, same, Nat.shiftRight_eq_div_pow]

/-- Both authenticators hash the octets that go out, and a decoded packet always
has them. -/
theorem authenticators_hash_wire (digests : Digests) (packet : Packet) (requestAuthenticator : Block 16)
    (secret : Octets) :
    (∀ octets, packet.encode = .ok octets →
      ∃ image zeroed, { packet with authenticator := requestAuthenticator }.encode = .ok image ∧
        { packet with authenticator := .zero 16 }.encode = .ok zeroed ∧
        calculateResponseAuthenticator digests packet requestAuthenticator secret =
          .ok (digests.md5 (image ++ secret)) ∧
        calculateAccountingRequestAuthenticator digests packet secret = .ok (digests.md5 (zeroed ++ secret))) ∧
    ∀ data, Packet.decode data = .ok packet →
      (∃ digest, calculateResponseAuthenticator digests packet requestAuthenticator secret = .ok digest) ∧
      ∃ digest, calculateAccountingRequestAuthenticator digests packet secret = .ok digest := by
  refine ⟨?_, ?_⟩
  · intro octets encoded
    obtain ⟨encodable, _⟩ := Packet.encode_eq_ok.mp encoded
    have image (authenticator : Block 16) : { packet with authenticator := authenticator }.encode =
        .ok { packet with authenticator := authenticator }.bytes :=
      Packet.encode_eq_ok.mpr ⟨⟨encodable.fits, encodable.small⟩, rfl⟩
    refine ⟨_, _, image requestAuthenticator, image (.zero 16), ?_, ?_⟩
    · rw [calculateResponseAuthenticator_of_fits _ _ encodable.fits, responseDigest_eq]
    · rw [calculateAccountingRequestAuthenticator, calculateResponseAuthenticator_of_fits _ _ encodable.fits,
        responseDigest_eq]
  · intro data decoded
    have fits := (Packet.decode_eq_ok.mp decoded).1.fits
    exact ⟨⟨_, calculateResponseAuthenticator_of_fits _ _ fits⟩, _, calculateResponseAuthenticator_of_fits _ _ fits⟩

end ResponseAuthenticator

/-! ## Passwords survive a change of secret -/

section UserPassword

variable {digests} {password : String}

/-- A password as `decrypt_user_password` returns it: no trailing NUL. -/
def Trimmed (passwordBytes : Octets) : Prop :=
  passwordBytes.rdropWhile (· == 0) = passwordBytes

theorem rdropWhile_append_zeros (octets : Octets) (count : Nat) :
    (octets ++ List.replicate count 0).rdropWhile (· == 0) = octets.rdropWhile (· == 0) := by
  induction count with
  | zero => simp
  | succ count ih =>
    rw [List.replicate_succ', ← List.append_assoc, List.rdropWhile_concat_pos _ _ _ (by decide), ih]

theorem padPassword_eq (passwordBytes : Octets) :
    ∃ padding, padPassword passwordBytes = passwordBytes ++ List.replicate padding 0 ∧
      passwordBytes.length + padding = 16 * max 1 ((passwordBytes.length + 15) / 16) := by
  by_cases empty : passwordBytes = []
  · subst passwordBytes
    exact ⟨16, by decide, by decide⟩
  · have present := List.length_pos_iff.mpr empty
    refine ⟨(16 - passwordBytes.length % 16) % 16, ?_, by omega⟩
    have kept : (if (16 - passwordBytes.length % 16) % 16 > 0 ∨ passwordBytes = [] then
        resize passwordBytes (passwordBytes.length + (16 - passwordBytes.length % 16) % 16)
        else passwordBytes) =
        passwordBytes ++ List.replicate ((16 - passwordBytes.length % 16) % 16) 0 := by
      split
      · rw [resize_of_le (Nat.le_add_right _ _), Nat.add_sub_cancel_left]
      · grind
    simp only [padPassword, kept]
    rw [if_neg]
    simp [empty]

theorem padPassword_length (passwordBytes : Octets) :
    (padPassword passwordBytes).length = 16 * max 1 ((passwordBytes.length + 15) / 16) := by
  obtain ⟨padding, padded, total⟩ := padPassword_eq passwordBytes
  rw [padded, List.length_append, List.length_replicate, total]

theorem padPassword_aligned (passwordBytes : Octets) :
    (padPassword passwordBytes).length = (padPassword passwordBytes).length / 16 * 16 := by
  rw [padPassword_length]
  omega

@[simp] theorem encryptUserPassword_length (password : String) (secret : Octets) (authenticator : Block 16) :
    (encryptUserPassword digests password secret authenticator).length =
      16 * max 1 (((utf8 password).length + 15) / 16) := by
  rw [encryptUserPassword, XorChain.encrypt_length (padPassword_aligned _), padPassword_length]

theorem decrypt_encryptUserPassword (secret : Octets) (authenticator : Block 16) (trimmed : Trimmed (utf8 password)) :
    decryptUserPassword digests (encryptUserPassword digests password secret authenticator) secret
      authenticator = .ok password := by
  have length := @encryptUserPassword_length digests password secret authenticator
  have accepted : ¬ ((encryptUserPassword digests password secret authenticator).length % 16 ≠ 0 ∨
      encryptUserPassword digests password secret authenticator = []) := by
    rw [← List.length_eq_zero_iff, length]
    omega
  have blocks : (encryptUserPassword digests password secret authenticator).length / 16 =
      (padPassword (utf8 password)).length / 16 := by
    rw [length, padPassword_length]
  obtain ⟨padding, padded, _⟩ := padPassword_eq (utf8 password)
  have stripped : (padPassword (utf8 password)).rdropWhile (· == 0) = utf8 password := by
    rw [padded, rdropWhile_append_zeros, trimmed]
  simp only [decryptUserPassword, if_neg accepted, blocks]
  rw [encryptUserPassword, XorChain.decrypt_encrypt (padPassword_aligned _), stripped, fromUtf8_utf8]

/-- What a decrypted password is like: framed in whole blocks, no longer than
its ciphertext and without trailing NULs. -/
theorem decryptUserPassword_shape {encrypted secret : Octets} {authenticator : Block 16}
    (decrypted : decryptUserPassword digests encrypted secret authenticator = .ok password) :
    encrypted.length % 16 = 0 ∧ encrypted ≠ [] ∧ (utf8 password).length ≤ encrypted.length ∧
      Trimmed (utf8 password) := by
  unfold decryptUserPassword at decrypted
  split at decrypted
  · cases decrypted
  · rename_i framed
    have aligned : encrypted.length = encrypted.length / 16 * 16 := by omega
    dsimp only at decrypted
    split at decrypted
    · rename_i text decoded
      cases decrypted
      rw [fromUtf8_eq_some] at decoded
      refine ⟨by omega, fun empty => framed (.inr empty), ?_, ?_⟩
      · rw [decoded]
        exact (List.rdropWhile_prefix _ _).length_le.trans (XorChain.decrypt_length aligned).le
      · rw [Trimmed, decoded, List.rdropWhile_idempotent]
    · cases decrypted

theorem trimmed_of_getLast {octets : Octets} (last : octets.getLast? ≠ some 0) : Trimmed octets := by
  rw [Trimmed, List.rdropWhile_eq_self_iff]
  intro present zero
  exact last (by rw [List.getLast?_eq_some_getLast present, beq_iff_eq.mp zero])

theorem userPassword_roundtrip (digests : Digests) (password : String) (secret : Octets) (authenticator : Block 16)
    (last : (utf8 password).getLast? ≠ some 0) :
    decryptUserPassword digests (encryptUserPassword digests password secret authenticator) secret authenticator =
        .ok password ∧
      (encryptUserPassword digests password secret authenticator).length =
        16 * max 1 (((utf8 password).length + 15) / 16) :=
  ⟨decrypt_encryptUserPassword secret authenticator (trimmed_of_getLast last),
    encryptUserPassword_length password secret authenticator⟩

theorem userPassword_roundtrip_phrase :
    decryptUserPassword .checksum (encryptUserPassword .checksum "correct horse battery" [1] (.zero 16)) [1]
      (.zero 16) = .ok "correct horse battery" ∧
    (encryptUserPassword .checksum "correct horse battery" [1] (.zero 16)).length = 32 := by
  obtain ⟨back, length⟩ := userPassword_roundtrip .checksum "correct horse battery" [1] (.zero 16) (by decide +kernel)
  exact ⟨back, length.trans (by decide +kernel)⟩

end UserPassword

end Auth

end UsgRadius
