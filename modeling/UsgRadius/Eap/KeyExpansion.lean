import UsgRadius.Eap.CryptoBinding

namespace UsgRadius.Eap

open Data CryptoBinding

/-! The key expansion of TLS 1.2 (RFC 5246, section 5), written twice in the
source: for EAP-TLS and for the Crypto-Binding of TEAP. -/

section KeyExpansion

variable (hmacs : Hmacs) (secret : Octets)

/-- `A(i)`. -/
def chained (seed : Octets) : Nat → Octets
  | 0 => seed
  | index + 1 => (hmacs.sha256 secret (chained seed index)).octets

/-- The first blocks of `P_SHA256(secret, seed)`. -/
def pHash (seed : Octets) : Nat → Octets
  | 0 => []
  | count + 1 => pHash seed count ++ (hmacs.sha256 secret (chained hmacs secret seed (count + 1) ++ seed)).octets

variable {hmacs secret} {seed : Octets} {length count : Nat}

theorem pHash_length : (pHash hmacs secret seed count).length = 32 * count := by
  induction count with
  | zero => rfl
  | succ count ih =>
    rw [pHash, List.length_append, ih, Block.size]
    omega

theorem take_pHash (enough : length ≤ 32 * count) (more : Nat) :
    (pHash hmacs secret seed (count + more)).take length = (pHash hmacs secret seed count).take length := by
  induction more with
  | zero => rfl
  | succ more ih =>
    have within : length ≤ (pHash hmacs secret seed (count + more)).length := by
      rw [pHash_length]
      omega
    rw [← Nat.add_assoc, pHash, List.take_append_of_le_length within, ih]

variable (hmacs secret)

/-- `while output.len() < output_len { .. }`; every round adds 32 octets, so
`length` rounds are enough. -/
def prfRoundsSha256 (labelSeed : Octets) (length : Nat) : (rounds : Nat) → (chain output : Octets) → Octets
  | 0, _, output => output
  | rounds + 1, chain, output =>
    if output.length < length then
      let chain := (hmacs.sha256 secret chain).octets
      prfRoundsSha256 labelSeed length rounds chain (output ++ (hmacs.sha256 secret (chain ++ labelSeed)).octets)
    else output

def tlsPrfSha256 (label seed : Octets) (length : Nat) : Octets :=
  (prfRoundsSha256 hmacs secret (label ++ seed) length length (label ++ seed) []).take length

variable {hmacs secret}

theorem prfRoundsSha256_eq {rounds : Nat} {chain output : Octets} :
    prfRoundsSha256 hmacs secret seed length rounds chain output =
      prfRounds hmacs .sha256 secret seed length rounds (hmacs.sha256 secret chain).octets output := by
  induction rounds generalizing chain output with
  | zero => rfl
  | succ rounds ih =>
    rw [prfRoundsSha256, prfRounds, ih]
    rfl

/-- After any number of rounds the chain is one step ahead of the output. -/
theorem prfRounds_eq {rounds index : Nat} (enough : length ≤ 32 * (index + rounds)) :
    ∃ count, length ≤ 32 * count ∧ prfRounds hmacs .sha256 secret seed length rounds
      (chained hmacs secret seed (index + 1)) (pHash hmacs secret seed index) = pHash hmacs secret seed count := by
  induction rounds generalizing index with
  | zero => exact ⟨index, enough, rfl⟩
  | succ rounds ih =>
    rw [prfRounds, pHash_length]
    split
    · exact @ih (index + 1) (by omega)
    · exact ⟨index, by omega, rfl⟩

theorem tlsPrf_eq (label : Octets) (enough : length ≤ 32 * count) :
    tlsPrf hmacs .sha256 secret label seed length =
      (pHash hmacs secret (label ++ seed) count).take length := by
  obtain ⟨reached, covers, rounds⟩ := @prfRounds_eq hmacs secret (label ++ seed) length length 0 (by omega)
  refine (congrArg (List.take length) rounds).trans ?_
  rw [← take_pHash covers count, Nat.add_comm, take_pHash enough]

/-- Both expansions are the beginning of the stream, as long as it is asked for. -/
theorem tlsPrf_streams (hmacs : Hmacs) (secret label seed : Octets) (length : Nat) :
    let output := tlsPrf hmacs .sha256 secret label seed length
    tlsPrfSha256 hmacs secret label seed length = output ∧ output.length = length ∧
      (∀ count, length ≤ 32 * count → output = (pHash hmacs secret (label ++ seed) count).take length) ∧
      ∀ longer, length ≤ longer → output <+: tlsPrf hmacs .sha256 secret label seed longer := by
  have covered : length ≤ 32 * length := by omega
  refine ⟨congrArg (List.take length) prfRoundsSha256_eq, ?_, fun count enough => tlsPrf_eq label enough, ?_⟩
  · rw [tlsPrf_eq label covered, List.length_take, pHash_length, Nat.min_eq_left covered]
  · intro longer less
    rw [tlsPrf_eq label (show length ≤ 32 * longer by omega), tlsPrf_eq label (show longer ≤ 32 * longer by omega)]
    exact List.take_prefix_take_left less

end KeyExpansion

end UsgRadius.Eap
