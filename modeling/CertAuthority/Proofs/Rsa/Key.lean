import CertAuthority.Proofs.Der.Value
import CertAuthority.Proofs.Modular
import CertAuthority.Rsa.Key

/-!
# RSA keys read back

Both kinds of RSA keys are read back from their octets.  The octets of a
private key are short: each of its numbers is below the product of its modulus
and its private exponent.
-/

namespace CertAuthority.Rsa

namespace PublicKey

variable {key : PublicKey}

theorem reads_numbers (key : PublicKey) :
    Der.Reads (Der.decodeNested Der.Tag.sequence decodeNumbers) key.encode key := by
  refine Der.Fills.nested ((Der.reads_unsigned key.modulus).bind ?_)
  exact (Der.reads_unsigned key.exponent).last rfl

theorem decode?_encode (sound : key.isSound = true) (bound : key.encode.length ≤ Der.maxLength) :
    decode? key.encode = some key := by
  rw [decode?, key.reads_numbers.complete bound]
  simp [sound]

/-- What is read as a key is the key that was written. -/
theorem eq_of_decode?_encode {found : PublicKey} (read : decode? key.encode = some found) :
    found = key := by
  have fills : Der.Fills decodeNumbers
      (Der.encodeUnsigned key.modulus ++ Der.encodeUnsigned key.exponent) key :=
    (Der.reads_unsigned key.modulus).bind ((Der.reads_unsigned key.exponent).last rfl)
  rcases Option.bind_eq_some_iff.mp read with ⟨numbers, whole, sound⟩
  rw [Option.ite_none_right_eq_some] at sound
  rcases Der.complete_decodeNested_encode.mp whole with ⟨short, content⟩
  rw [fills.complete short] at content
  rw [← Option.some.inj sound.2, Option.some.inj content]

theorem exponent_lt_modulus (sound : key.isSound = true) : key.exponent < key.modulus := by
  simp only [isSound, Bool.and_eq_true, decide_eq_true_eq] at sound
  exact sound.1.1.1.1

theorem modulus_lt_of_bitLength_le {width : Nat} (small : key.bitLength ≤ 8 * width) :
    key.modulus < 256 ^ width := by
  have power : (256 : Nat) ^ width = 2 ^ (8 * width) := by rw [Nat.pow_mul]
  unfold bitLength at small
  rw [power]
  split at small
  · rename_i zero
    rw [zero]
    exact Nat.two_pow_pos _
  · exact Nat.lt_log2_self.trans_le (Nat.pow_le_pow_right Nat.two_pos small)

theorem bitLength_le (key : PublicKey) : key.bitLength ≤ 8 * key.size := by
  have power : (256 : Nat) ^ key.size = 2 ^ (8 * key.size) := by rw [Nat.pow_mul]
  have above := Octets.lt_pow_byteLength key.modulus
  unfold bitLength
  split
  · exact Nat.zero_le _
  · rename_i nonzero
    exact (Nat.log2_lt nonzero).mpr (above.trans_eq power)

theorem length_encode_le {width : Nat} (few : width < 1000000) (sound : key.isSound = true)
    (small : key.modulus < 256 ^ width) : key.encode.length ≤ Der.maxLength := by
  have room : 2 * (width + 7) + 6 ≤ Der.maxLength := by
    unfold Der.maxLength
    omega
  have numbers : ∀ value ∈ [key.modulus, key.exponent], value < 256 ^ width := by
    have exponent := (exponent_lt_modulus sound).trans small
    simp [small, exponent]
  simpa [encode] using Der.length_encode_unsigned_le numbers room

theorem lt_pow_size (key : PublicKey) : key.modulus < 256 ^ key.size :=
  Octets.lt_pow_byteLength key.modulus

theorem pow_size_le (sound : key.isSound = true) : 256 ^ (key.size - 1) ≤ key.modulus :=
  Octets.pow_byteLength_le
    (Nat.pos_iff_ne_zero.mp (Nat.lt_trans Nat.one_pos (one_lt_modulus sound)))

end PublicKey

namespace PrivateKey

variable (key : PrivateKey)

theorem one_lt_firstFactor : 1 < key.firstFactor := by
  have consistent := key.consistent
  simp only [areFactors, Bool.and_eq_true, decide_eq_true_eq] at consistent
  exact consistent.2.1.1.1.1

theorem one_lt_secondFactor : 1 < key.secondFactor := by
  have consistent := key.consistent
  simp only [areFactors, Bool.and_eq_true, decide_eq_true_eq] at consistent
  exact consistent.2.1.1.1.2

theorem factors_mul : key.firstFactor * key.secondFactor = key.publicKey.modulus := by
  have consistent := key.consistent
  simp only [areFactors, Bool.and_eq_true, beq_iff_eq] at consistent
  exact consistent.2.1.1.2

theorem firstExponent_spec :
    key.publicKey.exponent * key.privateExponent % (key.firstFactor - 1) = 1 := by
  have consistent := key.consistent
  simp only [areFactors, Bool.and_eq_true, beq_iff_eq] at consistent
  exact consistent.2.1.2

theorem secondExponent_spec :
    key.publicKey.exponent * key.privateExponent % (key.secondFactor - 1) = 1 := by
  have consistent := key.consistent
  simp only [areFactors, Bool.and_eq_true, beq_iff_eq] at consistent
  exact consistent.2.2

theorem ofNumbers?_numbers :
    ofNumbers? key.publicKey key.privateExponent key.firstFactor key.secondFactor = some key := by
  rw [ofNumbers?, dif_pos key.consistent]

theorem ofNumbers?_eq_some {publicKey : PublicKey} {privateExponent first second : Nat}
    {key : PrivateKey} (found : ofNumbers? publicKey privateExponent first second = some key) :
    key.publicKey = publicKey ∧ key.privateExponent = privateExponent ∧
      key.firstFactor = first ∧ key.secondFactor = second := by
  unfold ofNumbers? at found
  split at found
  · rw [← Option.some.inj found]
    exact ⟨rfl, rfl, rfl, rfl⟩
  · cases found

/-- The numbers that are written for a key. -/
def numbers : List Nat :=
  [0, key.publicKey.modulus, key.publicKey.exponent, key.privateExponent, key.firstFactor,
    key.secondFactor, key.firstExponent, key.secondExponent, key.coefficient?.getD 0]

theorem encode_eq_numbers :
    key.encode = Der.encode Der.Tag.sequence (key.numbers.flatMap Der.encodeUnsigned) := rfl

theorem decode?_encode (bound : key.encode.length ≤ Der.maxLength) :
    decode? key.encode = some key := by
  have reads : Der.Reads (Der.decodeList Der.Tag.sequence Der.decodeUnsigned) key.encode
      key.numbers :=
    Der.reads_list (fun value _ => Der.reads_unsigned value) (fun _ _ => Der.encode_ne_nil _ _)
  rw [decode?, reads.complete bound]
  exact key.ofNumbers?_numbers

theorem firstFactor_lt : key.firstFactor < key.publicKey.modulus := by
  rw [← key.factors_mul]
  exact lt_mul_of_one_lt_right (Nat.zero_lt_of_lt key.one_lt_firstFactor) key.one_lt_secondFactor

theorem secondFactor_lt : key.secondFactor < key.publicKey.modulus := by
  rw [← key.factors_mul]
  exact lt_mul_of_one_lt_left (Nat.zero_lt_of_lt key.one_lt_secondFactor) key.one_lt_firstFactor

theorem coefficient?_lt {coefficient : Nat} (found : key.coefficient? = some coefficient) :
    coefficient < key.publicKey.modulus :=
  (Modular.inverse?_lt found (Nat.zero_lt_of_lt key.one_lt_firstFactor)).trans key.firstFactor_lt

/-- Every number that is written is small if the modulus and the private exponent are. -/
theorem numbers_lt {bound : Nat} (modulus : key.publicKey.modulus < bound)
    (privateExponent : key.privateExponent < bound) : ∀ value ∈ key.numbers, value < bound := by
  have first := key.firstFactor_lt
  have second := key.secondFactor_lt
  have exponent := PublicKey.exponent_lt_modulus key.isSound
  have firstExponent : key.firstExponent < bound :=
    (Nat.mod_le _ _).trans_lt privateExponent
  have secondExponent : key.secondExponent < bound :=
    (Nat.mod_le _ _).trans_lt privateExponent
  have coefficient : key.coefficient?.getD 0 < bound := by
    cases found : key.coefficient? with
    | none => exact Nat.zero_lt_of_lt modulus
    | some coefficient => exact (key.coefficient?_lt found).trans modulus
  intro value member
  simp only [numbers, List.mem_cons, List.not_mem_nil, or_false] at member
  rcases member with rfl | rfl | rfl | rfl | rfl | rfl | rfl | rfl | rfl <;> omega

/-- The octets of a key are about as many as its nine numbers have together. -/
theorem length_encode_le_width {width : Nat} (few : width < 1000000)
    (modulus : key.publicKey.modulus < 256 ^ width)
    (privateExponent : key.privateExponent < 256 ^ width) :
    key.encode.length ≤ 9 * (width + 7) + 6 := by
  have room : key.numbers.length * (width + 7) + 6 ≤ Der.maxLength := by
    show 9 * (width + 7) + 6 ≤ Der.maxLength
    unfold Der.maxLength
    omega
  rw [key.encode_eq_numbers]
  exact Der.length_encode_unsigned_le_width (key.numbers_lt modulus privateExponent) room

theorem length_encode_le {width : Nat} (few : width < 1000000)
    (modulus : key.publicKey.modulus < 256 ^ width)
    (privateExponent : key.privateExponent < 256 ^ width) :
    key.encode.length ≤ Der.maxLength := by
  refine (key.length_encode_le_width few modulus privateExponent).trans ?_
  unfold Der.maxLength
  omega

end PrivateKey

end CertAuthority.Rsa
