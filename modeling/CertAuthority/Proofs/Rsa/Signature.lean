import CertAuthority.Proofs.Hash.Digest
import CertAuthority.Proofs.Rsa.Key
import CertAuthority.Rsa.Signature

/-!
# Signatures of RSA keys

A signature that was made is one that is accepted, because making it ends with
the comparison that checking it consists of.  A key whose factors are different
primes always makes one, as long as the digest fits into the modulus: powers
modulo each factor are undone by Fermat's little theorem, and the two residues
determine the result.
-/

namespace CertAuthority.Rsa

/-! ## Digests that fit -/

theorem length_padded? {hash : Hash.Algorithm} {size : Nat} {message padded : Octets}
    (fits : padded? hash size message = some padded) : padded.length = size := by
  unfold padded? at fits
  simp only at fits
  split at fits
  · cases fits
  · rename_i enough
    rw [← Option.some.inj fits]
    simp only [List.length_cons, List.length_append, List.length_replicate] at enough ⊢
    omega

theorem padded?_eq_ofNatPadded {hash : Hash.Algorithm} {size : Nat} {message padded : Octets}
    (fits : padded? hash size message = some padded) :
    padded = Octets.ofNatPadded size (Octets.toNat padded) := by
  rw [← length_padded? fits, Octets.ofNatPadded_toNat]

/-- The leading octet of a padded digest is zero. -/
theorem toNat_padded?_lt {hash : Hash.Algorithm} {size : Nat} {message padded : Octets}
    (fits : padded? hash size message = some padded) :
    Octets.toNat padded < 256 ^ (size - 1) := by
  have leading : ∃ rest, padded = 0x00 :: rest := by
    unfold padded? at fits
    simp only at fits
    split at fits
    · cases fits
    · exact ⟨_, (Option.some.inj fits).symm⟩
  rw [← length_padded? fits]
  rcases leading with ⟨rest, rfl⟩
  rw [Octets.toNat_cons]
  simpa using Octets.toNat_lt rest

theorem exists_padded? (hash : Hash.Algorithm) {size : Nat} (message : Octets)
    (enough : (digestHeader hash ++ hash.digest message).length + 11 ≤ size) :
    ∃ padded, padded? hash size message = some padded := by
  unfold padded?
  rw [if_neg (Nat.not_lt.mpr enough)]
  exact ⟨_, rfl⟩

/-- What is filled up are the digests, which are found again in the result. -/
theorem padded?_eq_iff {hash : Hash.Algorithm} {size : Nat} {message other padded : Octets}
    (fits : padded? hash size message = some padded) :
    padded? hash size other = some padded ↔ hash.digest other = hash.digest message := by
  have length : (digestHeader hash ++ hash.digest other).length =
      (digestHeader hash ++ hash.digest message).length := by
    simp only [List.length_append, Hash.Algorithm.length_digest]
  unfold padded? at fits ⊢
  simp only [length] at fits ⊢
  split at fits
  · cases fits
  · rename_i enough
    rw [if_neg enough, ← fits]
    simp

/-! ## Making and checking -/

namespace PrivateKey

variable (key : PrivateKey)

/-- The residue that is put together of two residues is below the modulus. -/
theorem combined_lt {second difference : Nat} (secondLt : second < key.secondFactor)
    (differenceLt : difference < key.firstFactor) :
    second + key.secondFactor * difference < key.publicKey.modulus := by
  calc
    second + key.secondFactor * difference < key.secondFactor * (difference + 1) := by
      rw [Nat.mul_succ]
      omega
    _ ≤ key.secondFactor * key.firstFactor := Nat.mul_le_mul_left _ differenceLt
    _ = key.publicKey.modulus := by rw [Nat.mul_comm, key.factors_mul]

theorem power_lt (value : Nat) : key.power value < key.publicKey.modulus := by
  have positive : 0 < key.publicKey.modulus :=
    Nat.lt_trans Nat.one_pos (PublicKey.one_lt_modulus key.isSound)
  have first := key.one_lt_firstFactor
  have second := key.one_lt_secondFactor
  unfold power
  split
  · exact Modular.pow_lt positive
  · exact key.combined_lt (Modular.pow_lt (by omega)) (Nat.mod_lt _ (by omega))

/-- A signature that was made is accepted. -/
theorem verify_of_sign? {hash : Hash.Algorithm} {message signature : Octets}
    (signed : key.sign? hash message = some signature) :
    key.publicKey.verify hash message signature = true := by
  rcases Option.bind_eq_some_iff.mp signed with ⟨padded, fits, checked⟩
  simp only at checked
  split at checked
  · rename_i undone
    rcases Option.some.inj checked with rfl
    have below := Nat.lt_trans (key.power_lt (Octets.toNat padded)) key.publicKey.lt_pow_size
    have number := Octets.toNat_ofNatPadded_of_lt below
    simp only [PublicKey.verify, number, undone, fits, Octets.length_ofNatPadded, beq_self_eq_true,
      key.power_lt, decide_true, Bool.true_and, Bool.and_true]
    rw [← padded?_eq_ofNatPadded fits]
    exact beq_self_eq_true _
  · cases checked

/-- A signature is accepted for the messages with the digest of the one it was made of. -/
theorem verify_iff_of_sign? {hash : Hash.Algorithm} {message other signature : Octets}
    (signed : key.sign? hash message = some signature) :
    key.publicKey.verify hash other signature = true ↔
      hash.digest other = hash.digest message := by
  have made := key.verify_of_sign? signed
  simp only [PublicKey.verify, Bool.and_eq_true, beq_iff_eq] at made ⊢
  rw [padded?_eq_iff made.2]
  exact and_iff_right made.1

theorem length_of_sign? {hash : Hash.Algorithm} {message signature : Octets}
    (signed : key.sign? hash message = some signature) :
    signature.length = key.publicKey.size := by
  rcases Option.bind_eq_some_iff.mp signed with ⟨padded, fits, checked⟩
  simp only at checked
  split at checked
  · rw [← Option.some.inj checked, Octets.length_ofNatPadded]
  · cases checked

/-! ## Keys with prime factors -/

/-- Exponents that are inverse to each other modulo a prime minus one undo each other. -/
theorem pow_pow_eq {prime inner outer : Nat} [Fact prime.Prime]
    (inverse : outer * inner % (prime - 1) = 1) (value : ZMod prime) :
    (value ^ inner) ^ outer = value := by
  have split := Nat.div_add_mod (outer * inner) (prime - 1)
  rw [inverse] at split
  rw [← pow_mul, Nat.mul_comm, ← split, pow_succ]
  by_cases zero : value = 0
  · rw [zero, mul_zero]
  · rw [pow_mul, ZMod.pow_card_sub_one_eq_one zero, one_pow, one_mul]

theorem reduced_inverse {exponent privateExponent order : Nat}
    (inverse : exponent * privateExponent % order = 1) :
    exponent * (privateExponent % order) % order = 1 := by
  rw [Nat.mul_mod_mod, inverse]

/-- Raised to the public exponent, the power is the value again modulo the second factor. -/
theorem power_pow_second [Fact key.secondFactor.Prime] (value : Nat) :
    (key.power value : ZMod key.secondFactor) ^ key.publicKey.exponent = value := by
  have divides : key.secondFactor ∣ key.publicKey.modulus := Dvd.intro_left _ key.factors_mul
  unfold power
  split
  · rw [Modular.pow_eq, Modular.cast_mod_of_dvd divides, Nat.cast_pow]
    exact pow_pow_eq key.secondExponent_spec _
  · rw [Nat.cast_add, Nat.cast_mul, ZMod.natCast_self, zero_mul, add_zero, Modular.cast_pow]
    exact pow_pow_eq (reduced_inverse key.secondExponent_spec) _

/-- Raised to the public exponent, the power is the value again modulo the first factor. -/
theorem power_pow_first [Fact key.firstFactor.Prime] (value : Nat) :
    (key.power value : ZMod key.firstFactor) ^ key.publicKey.exponent = value := by
  have divides : key.firstFactor ∣ key.publicKey.modulus := Dvd.intro _ key.factors_mul
  have positive := Nat.lt_trans Nat.one_pos key.one_lt_firstFactor
  unfold power
  split
  · rw [Modular.pow_eq, Modular.cast_mod_of_dvd divides, Nat.cast_pow]
    exact pow_pow_eq key.firstExponent_spec _
  · rename_i coefficient found
    have inverse := Modular.cast_inverse? found positive
    have residue : ((Modular.pow value key.secondExponent key.secondFactor +
        key.secondFactor * (Modular.sub key.firstFactor
          (Modular.pow value key.firstExponent key.firstFactor)
          (Modular.pow value key.secondExponent key.secondFactor % key.firstFactor) *
            coefficient % key.firstFactor) : Nat) : ZMod key.firstFactor) =
        (value : ZMod key.firstFactor) ^ key.firstExponent := by
      have below := Nat.le_of_lt (Nat.mod_lt
        (Modular.pow value key.secondExponent key.secondFactor) positive)
      rw [Nat.cast_add, Nat.cast_mul, ZMod.natCast_mod, Nat.cast_mul, Modular.cast_sub below,
        ZMod.natCast_mod, Modular.cast_pow value key.firstExponent]
      linear_combination ((value : ZMod key.firstFactor) ^ key.firstExponent -
        (Modular.pow value key.secondExponent key.secondFactor : ZMod key.firstFactor)) * inverse
    simp only [residue]
    exact pow_pow_eq (reduced_inverse key.firstExponent_spec) _

/-- A key of two different primes signs every message whose digest fits. -/
theorem exists_sign? {hash : Hash.Algorithm} {message padded : Octets}
    (first : key.firstFactor.Prime) (second : key.secondFactor.Prime)
    (different : key.firstFactor ≠ key.secondFactor)
    (fits : padded? hash key.publicKey.size message = some padded) :
    ∃ signature, key.sign? hash message = some signature := by
  have firstFact : Fact key.firstFactor.Prime := ⟨first⟩
  have secondFact : Fact key.secondFactor.Prime := ⟨second⟩
  have coprime := (Nat.coprime_primes first second).mpr different
  have below := Nat.lt_of_lt_of_le (toNat_padded?_lt fits) (PublicKey.pow_size_le key.isSound)
  have modFirst : key.power (Octets.toNat padded) ^ key.publicKey.exponent ≡
      Octets.toNat padded [MOD key.firstFactor] := by
    rw [← ZMod.natCast_eq_natCast_iff, Nat.cast_pow]
    exact key.power_pow_first _
  have modSecond : key.power (Octets.toNat padded) ^ key.publicKey.exponent ≡
      Octets.toNat padded [MOD key.secondFactor] := by
    rw [← ZMod.natCast_eq_natCast_iff, Nat.cast_pow]
    exact key.power_pow_second _
  have both := (Nat.modEq_and_modEq_iff_modEq_mul coprime).mp ⟨modFirst, modSecond⟩
  have undone : Modular.pow (key.power (Octets.toNat padded)) key.publicKey.exponent
      key.publicKey.modulus = Octets.toNat padded := by
    rw [key.factors_mul] at both
    rw [Modular.pow_eq, both, Nat.mod_eq_of_lt below]
  refine ⟨Octets.ofNatPadded key.publicKey.size (key.power (Octets.toNat padded)), ?_⟩
  simp only [sign?, fits, Option.bind_eq_bind, Option.bind_some, undone, if_true]

end PrivateKey

end CertAuthority.Rsa
