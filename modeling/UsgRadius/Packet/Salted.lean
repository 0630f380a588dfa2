import UsgRadius.Packet.Auth
import UsgRadius.Packet.VendorSpecific
import Mathlib.Data.List.Nodup

namespace UsgRadius

open Data VendorSpecific AttributeType

/-! Salt-encrypted attributes: MS-MPPE keys (RFC 2548 section 2.4.2) and
Tunnel-Passwords (RFC 2868 section 3.5) share one cipher. -/

namespace Salted

variable (digests : Digests)

def saltLength : Nat := 2
def block : Nat := 16

def md5Chain (secret : Octets) (requestAuthenticator : Block 16) (salt : Block 2) : Block 16 :=
  digests.md5 (secret ++ requestAuthenticator.octets ++ salt.octets)

def md5Next (secret prevCipher : Octets) : Block 16 :=
  digests.md5 (secret ++ prevCipher)

/-- `salt[0] & 0x80 == 0`. -/
def saltUnmarked (salt : Block 2) : Bool :=
  salt.get 0 &&& 0x80 == 0

def sealSecret (secret : Octets) (requestAuthenticator : Block 16) (salt : Block 2) (data : Octets) : Octets :=
  let plaintext := resize (UInt8.ofNat data.length :: data) ((1 + data.length + (block - 1)) / block * block)
  XorChain.encrypt (md5Next digests secret) (plaintext.length / block)
    (md5Chain digests secret requestAuthenticator salt) plaintext

/-- The secret in a ciphertext, or the declared and the available length where
the length octet is too large. -/
def openSecret (secret : Octets) (requestAuthenticator : Block 16) (salt : Block 2) (cipher : Octets) :
    Except (Nat × Nat) Octets :=
  let plaintext := XorChain.decrypt (md5Next digests secret) (cipher.length / block)
    (md5Chain digests secret requestAuthenticator salt) cipher
  let declared := (plaintext.getD 0 0).toNat
  let available := plaintext.length - 1
  if declared > available then
    .error (declared, available)
  else
    .ok ((plaintext.take (1 + declared)).drop 1)

/-- The salt of attribute `index` for a random `base`: 15 bits counted up, with
the top bit set. -/
def saltAt (base : UInt16) (index : Nat) : Block 2 :=
  ⟨toBe 2 (0x8000 ||| (((base &&& 0x7FFF) + UInt16.ofNat index) &&& 0x7FFF)).toNat, toBe_length 2 _⟩

/-- `generate_salts(count)` for the drawn `base`. -/
def generateSalts (base : UInt16) (count : Nat) : List (Block 2) :=
  (List.range count).map (saltAt base)

/-! The cipher is undone by the same secret, Request Authenticator and salt. -/

section Cipher

variable {digests} {secret data : Octets} {requestAuthenticator : Block 16} {salt : Block 2}

private theorem sealed_aligned (count : Nat) : count / block * block = count / block * block / block * block := by
  simp only [block]
  omega

theorem sealSecret_length (data : Octets) :
    (sealSecret digests secret requestAuthenticator salt data).length = (data.length + 16) / 16 * 16 := by
  rw [sealSecret, XorChain.encrypt_length (by rw [resize_length]; exact sealed_aligned _), resize_length]
  simp only [block]
  omega

theorem open_sealSecret (small : data.length ≤ 239) :
    openSecret digests secret requestAuthenticator salt
      (sealSecret digests secret requestAuthenticator salt data) = .ok data := by
  have blocks : (sealSecret digests secret requestAuthenticator salt data).length / block =
      (resize (UInt8.ofNat data.length :: data)
        ((1 + data.length + (block - 1)) / block * block)).length / block := by
    rw [sealSecret_length, resize_length]
    simp only [block]
    omega
  have grows : (UInt8.ofNat data.length :: data).length ≤ (1 + data.length + (block - 1)) / block * block := by
    simp only [List.length_cons, block]
    omega
  have declared : (UInt8.ofNat data.length).toNat = data.length := by
    simp only [UInt8.toNat_ofNat', Nat.reducePow]
    omega
  rw [openSecret, blocks]
  rw [sealSecret, XorChain.decrypt_encrypt (by rw [resize_length]; exact sealed_aligned _), resize_of_le grows]
  simp only [List.cons_append, List.getD_cons_zero, declared, List.length_cons, List.length_append]
  rw [if_neg (by omega)]
  simp [Nat.add_comm 1]

theorem openSecret_length {cipher : Octets} (aligned : cipher.length % 16 = 0)
    (opened : openSecret digests secret requestAuthenticator salt cipher = .ok data) :
    data.length ≤ cipher.length - 1 := by
  unfold openSecret at opened
  dsimp only at opened
  split at opened
  · cases opened
  · cases opened
    have length := @XorChain.decrypt_length 16 (cipher.length / block) (md5Next digests secret)
      (md5Chain digests secret requestAuthenticator salt) cipher (by simp only [block]; omega)
    simp only [List.length_drop, List.length_take, length]
    omega

end Cipher

section Salts

variable (base : UInt16)

theorem saltAt_value (index : Nat) : fromBe (saltAt base index).octets = 2 ^ 15 + (base.toNat + index) % 2 ^ 15 := by
  have low (word : UInt16) : (word &&& 0x7FFF).toNat = word.toNat % 2 ^ 15 := by
    rw [UInt16.toNat_and]
    exact Nat.and_two_pow_sub_one_eq_mod word.toNat 15
  have counted : (((base &&& 0x7FFF) + UInt16.ofNat index) &&& 0x7FFF).toNat =
      (base.toNat + index) % 2 ^ 15 := by
    rw [low, UInt16.toNat_add, low, UInt16.toNat_ofNat']
    omega
  have marked : (0x8000 ||| (((base &&& 0x7FFF) + UInt16.ofNat index) &&& 0x7FFF)).toNat =
      2 ^ 15 + (base.toNat + index) % 2 ^ 15 := by
    rw [UInt16.toNat_or, counted]
    have bound : (base.toNat + index) % 2 ^ 15 < 2 ^ 15 := Nat.mod_lt _ (by decide)
    exact (Nat.two_pow_add_eq_or_of_lt bound 1).symm
  rw [saltAt, marked, fromBe_toBe_of_lt]
  have bound := Nat.mod_lt (base.toNat + index) (show 0 < 2 ^ 15 by decide)
  omega

theorem saltAt_injective {left right : Nat} (leftBound : left < 2 ^ 15) (rightBound : right < 2 ^ 15)
    (same : saltAt base left = saltAt base right) : left = right := by
  have values := congrArg (fun salt => fromBe salt.octets) same
  simp only [saltAt_value] at values
  omega

private theorem high_bit {octet : UInt8} (high : 128 ≤ octet.toNat) : (octet &&& 0x80 == 0) = false := by
  have bound := UInt8.toNat_lt octet
  have bit : octet.toNat.testBit 7 = true := by
    rw [Nat.testBit_eq_decide_div_mod_eq, decide_eq_true_iff]
    omega
  rw [beq_eq_false_iff_ne, ne_eq, ← UInt8.toNat_inj, UInt8.toNat_and]
  intro zero
  have cleared : (octet.toNat &&& 2 ^ 7).testBit 7 = Nat.testBit 0 7 := congrArg (Nat.testBit · 7) zero
  rw [Nat.testBit_and, bit, Nat.testBit_two_pow_self, Nat.zero_testBit] at cleared
  cases cleared

@[simp] theorem saltAt_marked (index : Nat) : saltUnmarked (saltAt base index) = false := by
  have value := saltAt_value base index
  rw [Block.octets_eq_pair] at value
  simp only [fromBe, List.length_cons, List.length_nil] at value
  have low := UInt8.toNat_lt ((saltAt base index).get 1)
  exact high_bit (by omega)

theorem generateSalts_nodup {count : Nat} (bound : count ≤ 2 ^ 15) : (generateSalts base count).Nodup := by
  apply List.Nodup.map_on
  · intro left leftMember right rightMember same
    rw [List.mem_range] at leftMember rightMember
    exact saltAt_injective base (by omega) (by omega) same
  · exact List.nodup_range

end Salts

end Salted

inductive MppeError where
  | keyTooLong (length : Nat)
  | invalidSalt (salt : Nat)
  | invalidLength (length : Nat)
  | invalidKeyLength (declared available : Nat)
  | mskTooShort (length : Nat)
  | attributeFailed (error : PacketError)
deriving DecidableEq

structure MppeKeys where
  sendKey : Octets
  recvKey : Octets
deriving DecidableEq

namespace Mppe

open Salted

variable (digests : Digests)

def microsoftVendorId : UInt32 := 311
def msMppeSendKey : UInt8 := 16
def msMppeRecvKey : UInt8 := 17
def maxKeyLength : Nat := 239

def encryptKey (key secret : Octets) (requestAuthenticator : Block 16) (salt : Block 2) :
    Except MppeError Octets :=
  if key.length > maxKeyLength then
    .error (.keyTooLong key.length)
  else if saltUnmarked salt then
    .error (.invalidSalt (fromBe salt.octets))
  else
    .ok (salt.octets ++ sealSecret digests secret requestAuthenticator salt key)

def decryptKey (encrypted secret : Octets) (requestAuthenticator : Block 16) : Except MppeError Octets :=
  let cipherLen := encrypted.length - saltLength
  if framed : encrypted.length < saltLength + block ∨ cipherLen % block ≠ 0 then
    .error (.invalidLength encrypted.length)
  else
    let salt : Block 2 := ⟨encrypted.take 2, by
      simp only [saltLength, block, List.length_take] at framed ⊢
      omega⟩
    if saltUnmarked salt then
      .error (.invalidSalt (fromBe salt.octets))
    else
      match openSecret digests secret requestAuthenticator salt (encrypted.drop saltLength) with
      | .error (declared, available) => .error (.invalidKeyLength declared available)
      | .ok key => .ok key

/-- `?` on a packet error inside a function that returns MPPE errors. -/
def liftPacket {Value : Type} : Except PacketError Value → Except MppeError Value
  | .ok value => .ok value
  | .error reason => .error (.attributeFailed reason)

def encryptKeyAttribute (vendorType : UInt8) (key secret : Octets) (requestAuthenticator : Block 16)
    (salt : Block 2) : Except MppeError Attribute := do
  let encrypted ← encryptKey digests key secret requestAuthenticator salt
  let sub ← liftPacket (new microsoftVendorId vendorType encrypted)
  liftPacket sub.toAttribute

section Laws

variable {digests} {key encrypted secret : Octets} {requestAuthenticator : Block 16} {salt : Block 2}
  {vendorType : UInt8}

def sealedKey (digests : Digests) (key secret : Octets) (requestAuthenticator : Block 16) (salt : Block 2) :
    Octets :=
  salt.octets ++ sealSecret digests secret requestAuthenticator salt key

theorem sealedKey_length :
    (sealedKey digests key secret requestAuthenticator salt).length = 2 + (key.length + 16) / 16 * 16 := by
  rw [sealedKey, List.length_append, Block.size, sealSecret_length]

theorem decrypt_sealedKey (small : key.length ≤ maxKeyLength) (marked : saltUnmarked salt = false) :
    decryptKey digests (sealedKey digests key secret requestAuthenticator salt) secret requestAuthenticator =
      .ok key := by
  have framed : ¬ ((sealedKey digests key secret requestAuthenticator salt).length < saltLength + block ∨
      ((sealedKey digests key secret requestAuthenticator salt).length - saltLength) % block ≠ 0) := by
    rw [sealedKey_length]
    simp only [saltLength, block]
    omega
  have saltField : (sealedKey digests key secret requestAuthenticator salt).take 2 = salt.octets :=
    List.take_left' salt.size
  have cipher : (sealedKey digests key secret requestAuthenticator salt).drop saltLength =
      sealSecret digests secret requestAuthenticator salt key :=
    List.drop_left' salt.size
  simp only [decryptKey, framed, dite_false, saltField, marked, Bool.false_eq_true, if_false, cipher,
    open_sealSecret small]

theorem decryptKey_small (fits : encrypted.length ≤ maxValueLength)
    (decrypted : decryptKey digests encrypted secret requestAuthenticator = .ok key) : key.length ≤ maxKeyLength := by
  unfold decryptKey at decrypted
  dsimp only at decrypted
  split at decrypted
  · cases decrypted
  · rename_i framed
    split at decrypted
    · cases decrypted
    · split at decrypted
      · cases decrypted
      · rename_i opened
        cases decrypted
        simp only [saltLength, block] at framed
        have bound := openSecret_length (by simp only [List.length_drop, saltLength]; omega) opened
        simp only [List.length_drop, saltLength] at bound
        simp only [maxValueLength, Attribute.maxValueLength, vendorIdLength,
          subHeaderLength, maxKeyLength] at *
        omega

def keySub (digests : Digests) (vendorType : UInt8) (key secret : Octets) (requestAuthenticator : Block 16)
    (salt : Block 2) : VendorSpecific :=
  ⟨microsoftVendorId, vendorType, sealedKey digests key secret requestAuthenticator salt⟩

theorem keySub_fits (small : key.length ≤ maxKeyLength) :
    VendorSpecific.Fits microsoftVendorId
      (keySub digests vendorType key secret requestAuthenticator salt) := by
  refine ⟨rfl, ?_⟩
  simp only [keySub, sealedKey_length, maxKeyLength] at *
  omega

def keyAttribute (digests : Digests) (vendorType : UInt8) (key secret : Octets) (requestAuthenticator : Block 16)
    (salt : Block 2) : Attribute :=
  ⟨vendorSpecific.asU8, combinedValue microsoftVendorId
    [keySub digests vendorType key secret requestAuthenticator salt]⟩

theorem keyAttribute_length {vendorType : UInt8} :
    (keyAttribute digests vendorType key secret requestAuthenticator salt).encodedLength =
      10 + (key.length + 16) / 16 * 16 := by
  simp only [keyAttribute, Attribute.encodedLength, combinedValue, keySub, List.flatMap_cons,
    List.flatMap_nil, List.append_nil, List.length_append, idBytes_length,
    encodeSubAttribute_length, encodedLength, subHeaderLength,
    sealedKey_length, Attribute.minLength]
  omega

theorem keyAttribute_fits (small : key.length ≤ maxKeyLength) :
    (keyAttribute digests vendorType key secret requestAuthenticator salt).Fits := by
  have length := @keyAttribute_length digests key secret requestAuthenticator salt vendorType
  simp only [Attribute.encodedLength, Attribute.minLength, Attribute.Fits, Attribute.maxValueLength, maxKeyLength] at *
  omega

theorem encryptKeyAttribute_eq (vendorType : UInt8) (small : key.length ≤ maxKeyLength)
    (marked : saltUnmarked salt = false) :
    encryptKeyAttribute digests vendorType key secret requestAuthenticator salt =
      .ok (keyAttribute digests vendorType key secret requestAuthenticator salt) := by
  have accepted : new microsoftVendorId vendorType
      (sealedKey digests key secret requestAuthenticator salt) =
        .ok (keySub digests vendorType key secret requestAuthenticator salt) := by
    rw [new, if_neg, keySub]
    rw [sealedKey_length]
    simp only [maxValueLength, Attribute.maxValueLength, vendorIdLength,
      subHeaderLength, maxKeyLength] at *
    omega
  have value : (keySub digests vendorType key secret requestAuthenticator salt).encodeValue =
      (keyAttribute digests vendorType key secret requestAuthenticator salt).value := by
    simp [encodeValue, combinedValue, keyAttribute, keySub]
  have wrapped : (keySub digests vendorType key secret requestAuthenticator salt).toAttribute =
      .ok (keyAttribute digests vendorType key secret requestAuthenticator salt) := by
    refine Attribute.new_eq_ok.mpr ⟨?_, ?_⟩
    · rw [value]
      exact keyAttribute_fits small
    · rw [value]
      rfl
  have encrypted : encryptKey digests key secret requestAuthenticator salt =
      .ok (sealedKey digests key secret requestAuthenticator salt) := by
    simp [encryptKey, Nat.not_lt.mpr small, marked, sealedKey]
  simp only [encryptKeyAttribute, encrypted, Results.ok_bind, accepted, liftPacket, wrapped]

end Laws

end Mppe

namespace MppeKeys

open Mppe Salted

variable (digests : Digests)

def mppeKeyLength : Nat := 32
def minMskLength : Nat := 2 * mppeKeyLength

def fromMsk (msk : Octets) : Except MppeError MppeKeys :=
  if msk.length < minMskLength then
    .error (.mskTooShort msk.length)
  else
    .ok { recvKey := msk.take mppeKeyLength, sendKey := (msk.take minMskLength).drop mppeKeyLength }

def toAttributesWithSalts (keys : MppeKeys) (secret : Octets) (requestAuthenticator : Block 16)
    (sendSalt recvSalt : Block 2) : Except MppeError (List Attribute) :=
  if sendSalt = recvSalt then
    .error (.invalidSalt (fromBe recvSalt.octets))
  else do
    let send ← encryptKeyAttribute digests msMppeSendKey keys.sendKey secret requestAuthenticator sendSalt
    let recv ← encryptKeyAttribute digests msMppeRecvKey keys.recvKey secret requestAuthenticator recvSalt
    return [send, recv]

/-- `to_attributes` for the drawn salt base: `salts[0]` and `salts[1]` of
`generate_salts(2)`. -/
def toAttributes (keys : MppeKeys) (secret : Octets) (requestAuthenticator : Block 16) (base : UInt16) :
    Except MppeError (List Attribute) :=
  let salts := generateSalts base 2
  toAttributesWithSalts digests keys secret requestAuthenticator
    (salts.getD 0 default) (salts.getD 1 default)

def fromPacket (packet : Packet) (secret : Octets) (requestAuthenticator : Block 16) :
    Except MppeError (Option MppeKeys) :=
  let send := packet.findVendorAttributes microsoftVendorId msMppeSendKey
  let recv := packet.findVendorAttributes microsoftVendorId msMppeRecvKey
  match send.head?, recv.head? with
  | none, none => .ok none
  | some send, some recv => do
    let sendKey ← decryptKey digests send.value secret requestAuthenticator
    let recvKey ← decryptKey digests recv.value secret requestAuthenticator
    return some { sendKey, recvKey }
  | some _, none =>
    .error (.attributeFailed (.attributeError "MS-MPPE-Send-Key present without MS-MPPE-Recv-Key"))
  | none, some _ =>
    .error (.attributeFailed (.attributeError "MS-MPPE-Recv-Key present without MS-MPPE-Send-Key"))

section Sealed

variable {digests} {keys : MppeKeys} {secret : Octets} {requestAuthenticator : Block 16} {sendSalt recvSalt : Block 2}

theorem toAttributesWithSalts_eq (sendSmall : keys.sendKey.length ≤ maxKeyLength)
    (recvSmall : keys.recvKey.length ≤ maxKeyLength) (sendMarked : saltUnmarked sendSalt = false)
    (recvMarked : saltUnmarked recvSalt = false) (different : sendSalt ≠ recvSalt) :
    keys.toAttributesWithSalts digests secret requestAuthenticator sendSalt recvSalt =
      .ok [keyAttribute digests msMppeSendKey keys.sendKey secret requestAuthenticator sendSalt,
        keyAttribute digests msMppeRecvKey keys.recvKey secret requestAuthenticator recvSalt] := by
  simp only [toAttributesWithSalts, if_neg different, encryptKeyAttribute_eq _ sendSmall sendMarked,
    encryptKeyAttribute_eq _ recvSmall recvMarked, Results.ok_bind]
  rfl

theorem toAttributes_eq {base : UInt16} (sendSmall : keys.sendKey.length ≤ maxKeyLength)
    (recvSmall : keys.recvKey.length ≤ maxKeyLength) :
    keys.toAttributes digests secret requestAuthenticator base =
      .ok [keyAttribute digests msMppeSendKey keys.sendKey secret requestAuthenticator (saltAt base 0),
        keyAttribute digests msMppeRecvKey keys.recvKey secret requestAuthenticator (saltAt base 1)] := by
  have different : saltAt base 0 ≠ saltAt base 1 := by
    intro same
    have := saltAt_injective base (by decide) (by decide) same
    omega
  exact toAttributesWithSalts_eq sendSmall recvSmall (saltAt_marked base 0) (saltAt_marked base 1) different

theorem fromPacket_sealed {packet : Packet} (sendSmall : keys.sendKey.length ≤ maxKeyLength)
    (recvSmall : keys.recvKey.length ≤ maxKeyLength) (sendMarked : saltUnmarked sendSalt = false)
    (recvMarked : saltUnmarked recvSalt = false) (send : packet.findVendorAttributes microsoftVendorId msMppeSendKey =
      [keySub digests msMppeSendKey keys.sendKey secret requestAuthenticator sendSalt])
    (recv : packet.findVendorAttributes microsoftVendorId msMppeRecvKey =
      [keySub digests msMppeRecvKey keys.recvKey secret requestAuthenticator recvSalt]) :
    fromPacket digests packet secret requestAuthenticator = .ok (some keys) := by
  have sendRead := @decrypt_sealedKey digests keys.sendKey secret requestAuthenticator sendSalt sendSmall sendMarked
  have recvRead := @decrypt_sealedKey digests keys.recvKey secret requestAuthenticator recvSalt recvSmall recvMarked
  simp [fromPacket, send, recv, keySub, sendRead, recvRead]

theorem findVendorAttributes_keyAttribute (packet : Packet) {vendorType : UInt8} {key : Octets} {salt : Block 2}
    (wanted : UInt8) (small : key.length ≤ maxKeyLength) :
    (packet.addAttribute (keyAttribute digests vendorType key secret requestAuthenticator salt)).findVendorAttributes
        microsoftVendorId wanted =
      packet.findVendorAttributes microsoftVendorId wanted ++
        if vendorType = wanted then [keySub digests vendorType key secret requestAuthenticator salt] else [] := by
  have fits : ∀ sub ∈ [keySub digests vendorType key secret requestAuthenticator salt],
      VendorSpecific.Fits microsoftVendorId sub :=
    List.forall_mem_singleton.mpr (keySub_fits small)
  have decoded := decodeValue_complete (List.cons_ne_nil _ _) fits
  have added : (([keyAttribute digests vendorType key secret requestAuthenticator salt].filter
      (·.attrType = vendorSpecific.asU8)).filterMap
        fun attr => (decodeValue attr.value).toOption) =
      [[keySub digests vendorType key secret requestAuthenticator salt]] := by
    simp [keyAttribute, decoded, Except.toOption]
  simp only [Packet.findVendorAttributes, Packet.addAttribute, List.filter_append, List.filterMap_append,
    List.flatten_append, added]
  split
  · rename_i same
    simp [keySub, same]
  · rename_i other
    simp [keySub, other]

end Sealed

end MppeKeys

inductive TunnelPasswordError where
  | passwordTooLong (length : Nat)
  | invalidTag (tag : UInt8)
  | invalidSalt (salt : Nat)
  | invalidLength (length : Nat)
  | invalidDataLength (declared available : Nat)
  | wrongAttributeType (attrType : UInt8)
  | attributeFailed (error : PacketError)
deriving DecidableEq

structure TunnelPassword where
  tag : UInt8
  password : Octets
deriving DecidableEq

namespace TunnelPassword

open Salted

variable (digests : Digests)

def maxTag : UInt8 := 0x1F
def maxPasswordLength : Nat := 239
def header : Nat := 3

def encrypt (tag : UInt8) (password secret : Octets) (requestAuthenticator : Block 16) (salt : Block 2) :
    Except TunnelPasswordError Octets :=
  if tag > maxTag then
    .error (.invalidTag tag)
  else if password.length > maxPasswordLength then
    .error (.passwordTooLong password.length)
  else if saltUnmarked salt then
    .error (.invalidSalt (fromBe salt.octets))
  else
    .ok (tag :: (salt.octets ++ sealSecret digests secret requestAuthenticator salt password))

def decrypt (value secret : Octets) (requestAuthenticator : Block 16) :
    Except TunnelPasswordError (UInt8 × Octets) :=
  let cipherLen := value.length - header
  if framed : value.length < header + block ∨ cipherLen % block ≠ 0 then
    .error (.invalidLength value.length)
  else
    let tag := value.getD 0 0
    if tag > maxTag then
      .error (.invalidTag tag)
    else
      let salt : Block 2 := ⟨(value.drop 1).take 2, by
        simp only [header, block, List.length_take, List.length_drop] at framed ⊢
        omega⟩
      if saltUnmarked salt then
        .error (.invalidSalt (fromBe salt.octets))
      else
        match openSecret digests secret requestAuthenticator salt (value.drop header) with
        | .error (declared, available) => .error (.invalidDataLength declared available)
        | .ok password => .ok (tag, password)

def toAttributeWithSalt (tunnel : TunnelPassword) (secret : Octets) (requestAuthenticator : Block 16)
    (salt : Block 2) : Except TunnelPasswordError Attribute := do
  let value ← encrypt digests tunnel.tag tunnel.password secret requestAuthenticator salt
  match Attribute.new tunnelPassword.asU8 value with
  | .ok attr => .ok attr
  | .error reason => .error (.attributeFailed reason)

def fromAttribute (attr : Attribute) (secret : Octets) (requestAuthenticator : Block 16) :
    Except TunnelPasswordError TunnelPassword :=
  if attr.attrType ≠ tunnelPassword.asU8 then
    .error (.wrongAttributeType attr.attrType)
  else do
    let (tag, password) ← decrypt digests attr.value secret requestAuthenticator
    return { tag, password }

section Laws

variable {digests} {tunnel : TunnelPassword} {attr : Attribute} {secret : Octets}
  {requestAuthenticator : Block 16} {salt : Block 2}

def sealedValue (digests : Digests) (tunnel : TunnelPassword) (secret : Octets)
    (requestAuthenticator : Block 16) (salt : Block 2) : Octets :=
  tunnel.tag :: (salt.octets ++ sealSecret digests secret requestAuthenticator salt tunnel.password)

/-- The passwords an attribute can carry. -/
structure Fits (tunnel : TunnelPassword) : Prop where
  tag : tunnel.tag ≤ maxTag
  small : tunnel.password.length ≤ maxPasswordLength

theorem sealedValue_length :
    (sealedValue digests tunnel secret requestAuthenticator salt).length =
      3 + (tunnel.password.length + 16) / 16 * 16 := by
  simp only [sealedValue, List.length_cons, List.length_append, Block.size, sealSecret_length]
  omega

theorem encrypt_eq (fits : tunnel.Fits) (marked : saltUnmarked salt = false) :
    encrypt digests tunnel.tag tunnel.password secret requestAuthenticator salt =
      .ok (sealedValue digests tunnel secret requestAuthenticator salt) := by
  simp [encrypt, UInt8.not_lt.mpr fits.tag, Nat.not_lt.mpr fits.small, marked, sealedValue]

theorem sealedValue_fits (fits : tunnel.Fits) :
    (sealedValue digests tunnel secret requestAuthenticator salt).length ≤ Attribute.maxValueLength := by
  rw [sealedValue_length]
  have small := fits.small
  simp only [maxPasswordLength, Attribute.maxValueLength] at *
  omega

theorem toAttributeWithSalt_eq (fits : tunnel.Fits) (marked : saltUnmarked salt = false) :
    toAttributeWithSalt digests tunnel secret requestAuthenticator salt =
      .ok ⟨tunnelPassword.asU8,
        sealedValue digests tunnel secret requestAuthenticator salt⟩ := by
  have accepted := Attribute.new_eq_ok.mpr ⟨@sealedValue_fits digests tunnel secret requestAuthenticator salt fits,
    (rfl : _ = Attribute.mk tunnelPassword.asU8 _)⟩
  simp only [toAttributeWithSalt, encrypt_eq fits marked, Results.ok_bind, accepted]

theorem decrypt_sealedValue (fits : tunnel.Fits) (marked : saltUnmarked salt = false) :
    decrypt digests (sealedValue digests tunnel secret requestAuthenticator salt) secret requestAuthenticator =
      .ok (tunnel.tag, tunnel.password) := by
  have framed : ¬ ((sealedValue digests tunnel secret requestAuthenticator salt).length < header + block ∨
      ((sealedValue digests tunnel secret requestAuthenticator salt).length - header) % block ≠ 0) := by
    rw [sealedValue_length]
    simp only [header, block]
    omega
  have tagField : (sealedValue digests tunnel secret requestAuthenticator salt).getD 0 0 = tunnel.tag := rfl
  have saltField : ((sealedValue digests tunnel secret requestAuthenticator salt).drop 1).take 2 =
      salt.octets :=
    List.take_left' salt.size
  have cipher : (sealedValue digests tunnel secret requestAuthenticator salt).drop header =
      sealSecret digests secret requestAuthenticator salt tunnel.password :=
    List.drop_left' salt.size
  simp only [decrypt, framed, dite_false, tagField, gt_iff_lt, UInt8.not_lt.mpr fits.tag, if_false,
    saltField, marked, Bool.false_eq_true, cipher, open_sealSecret fits.small]

theorem fromAttribute_sealed (fits : tunnel.Fits) (marked : saltUnmarked salt = false) :
    fromAttribute digests ⟨tunnelPassword.asU8,
      sealedValue digests tunnel secret requestAuthenticator salt⟩ secret requestAuthenticator =
        .ok tunnel := by
  simp only [fromAttribute, ne_eq, not_true, if_false, decrypt_sealedValue fits marked]
  rfl

theorem fromAttribute_fits (small : attr.Fits)
    (decrypted : fromAttribute digests attr secret requestAuthenticator = .ok tunnel) : tunnel.Fits := by
  unfold fromAttribute at decrypted
  split at decrypted
  · cases decrypted
  · rw [Results.bind_eq_ok] at decrypted
    obtain ⟨⟨tag, password⟩, decrypted, same⟩ := decrypted
    cases same
    unfold decrypt at decrypted
    dsimp only at decrypted
    split at decrypted
    · cases decrypted
    · rename_i framed
      split at decrypted
      · cases decrypted
      · rename_i tagged
        split at decrypted
        · cases decrypted
        · split at decrypted
          · cases decrypted
          · rename_i opened
            cases decrypted
            simp only [header, block] at framed
            have bound := openSecret_length (by simp only [List.length_drop, header]; omega) opened
            simp only [List.length_drop, header] at bound
            refine ⟨UInt8.not_lt.mp tagged, ?_⟩
            simp only [Attribute.Fits, Attribute.maxValueLength, maxPasswordLength] at *
            omega

end Laws

end TunnelPassword

namespace Salted

/-- Whatever the hash is, Tunnel-Passwords and pairs of MS-MPPE keys survive
their encryption, and the salts of one packet differ. -/
theorem salted_roundtrip (digests : Digests) (secret : Octets) (requestAuthenticator : Block 16) :
    (∀ (tunnel : TunnelPassword) (salt : Block 2), tunnel.password.length ≤ 239 → tunnel.tag ≤ 0x1F →
      saltUnmarked salt = false →
      ∃ value, TunnelPassword.encrypt digests tunnel.tag tunnel.password secret requestAuthenticator salt = .ok value ∧
        value.length ≤ 253 ∧
        TunnelPassword.decrypt digests value secret requestAuthenticator = .ok (tunnel.tag, tunnel.password)) ∧
    (∀ (keys : MppeKeys) (sendSalt recvSalt : Block 2), keys.sendKey.length ≤ 239 → keys.recvKey.length ≤ 239 →
      saltUnmarked sendSalt = false → saltUnmarked recvSalt = false → sendSalt ≠ recvSalt →
      ∃ send recv, keys.toAttributesWithSalts digests secret requestAuthenticator sendSalt recvSalt = .ok [send, recv] ∧
        ∀ packet : Packet, packet.findVendorAttributes Mppe.microsoftVendorId Mppe.msMppeSendKey = [] →
          packet.findVendorAttributes Mppe.microsoftVendorId Mppe.msMppeRecvKey = [] →
          ((packet.addAttribute send).addAttribute recv).Encodable →
          ∃ octets decoded, ((packet.addAttribute send).addAttribute recv).encode = .ok octets ∧
            Packet.decode octets = .ok decoded ∧
            MppeKeys.fromPacket digests decoded secret requestAuthenticator = .ok (some keys)) ∧
    ∀ (base : UInt16) (count : Nat), count ≤ 32768 →
      (generateSalts base count).length = count ∧ (generateSalts base count).Nodup ∧
        ∀ salt ∈ generateSalts base count, saltUnmarked salt = false := by
  refine ⟨?_, ?_, ?_⟩
  · intro tunnel salt small tagged marked
    have fits : tunnel.Fits := ⟨tagged, small⟩
    exact ⟨_, TunnelPassword.encrypt_eq fits marked, TunnelPassword.sealedValue_fits fits,
      TunnelPassword.decrypt_sealedValue fits marked⟩
  · intro keys sendSalt recvSalt sendSmall recvSmall sendMarked recvMarked different
    refine ⟨_, _, MppeKeys.toAttributesWithSalts_eq sendSmall recvSmall sendMarked recvMarked different, ?_⟩
    intro packet noSend noRecv encodable
    have encoded := Packet.encode_eq_ok.mpr ⟨encodable, rfl⟩
    refine ⟨_, _, encoded, Packet.decode_of_encode encoded, ?_⟩
    apply MppeKeys.fromPacket_sealed sendSmall recvSmall sendMarked recvMarked
    · rw [MppeKeys.findVendorAttributes_keyAttribute _ _ recvSmall,
        MppeKeys.findVendorAttributes_keyAttribute _ _ sendSmall, noSend]
      rfl
    · rw [MppeKeys.findVendorAttributes_keyAttribute _ _ recvSmall,
        MppeKeys.findVendorAttributes_keyAttribute _ _ sendSmall, noRecv]
      rfl
  · intro base count bound
    refine ⟨by simp [generateSalts], generateSalts_nodup base bound, ?_⟩
    intro salt member
    obtain ⟨index, _, rfl⟩ := List.mem_map.mp member
    exact saltAt_marked base index

end Salted

end UsgRadius
