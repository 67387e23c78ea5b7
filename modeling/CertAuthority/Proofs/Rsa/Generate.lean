import CertAuthority.Proofs.Operation
import CertAuthority.Proofs.Primality.Certificate
import CertAuthority.Proofs.Rsa.Key
import CertAuthority.Rsa.Generate

/-!
# Keys of random numbers

A made key has the number of bits that was asked for, two different factors and
an exponent below its modulus.  The test that its factors pass is one that every
prime passes: the squarings from an odd power up to one reach minus one on the
way.  So a key is made of the first numbers that are drawn if they are prime.
-/

namespace CertAuthority.Rsa

/-! ## Primes pass the test -/

theorem twoAdicity_dvd (steps value : Nat) : 2 ^ Modular.twoAdicity steps value ∣ value := by
  induction steps generalizing value with
  | zero => exact one_dvd value
  | succ steps ih =>
      rw [Modular.twoAdicity]
      split
      · rename_i even
        rw [pow_succ']
        exact (Nat.mul_dvd_mul_left 2 (ih (value / 2))).trans (Nat.mul_div_cancel'
          (Nat.dvd_of_mod_eq_zero even)).dvd
      · exact one_dvd value

section Prime

variable {modulus : Nat} [prime : Fact modulus.Prime]

theorem eq_of_cast_eq {value other : Nat} (small : value < modulus) (otherSmall : other < modulus)
    (same : (value : ZMod modulus) = other) : value = other := by
  rw [ZMod.natCast_eq_natCast_iff', Nat.mod_eq_of_lt small, Nat.mod_eq_of_lt otherSmall] at same
  exact same

/-- A residue that squarings take to one is one already or is taken to minus one before. -/
theorem reachesMinusOne_of_pow_eq_one {count value : Nat} (small : value < modulus)
    (power : (value : ZMod modulus) ^ 2 ^ count = 1) :
    value = 1 ∨ reachesMinusOne modulus count value = true := by
  have above := prime.out.one_lt
  induction count generalizing value with
  | zero =>
      rw [pow_zero, pow_one, ← Nat.cast_one] at power
      exact Or.inl (eq_of_cast_eq small above power)
  | succ count ih =>
      have squared : ((value * value % modulus : Nat) : ZMod modulus) ^ 2 ^ count = 1 := by
        rw [ZMod.natCast_mod, Nat.cast_mul, ← sq, ← pow_mul, ← pow_succ', power]
      rcases ih (Nat.mod_lt _ (Nat.zero_lt_of_lt above)) squared with one | reached
      · have root : (value : ZMod modulus) * value = 1 := by
          rw [← Nat.cast_mul, ← ZMod.natCast_mod, one, Nat.cast_one]
        rcases mul_self_eq_one_iff.mp root with same | opposite
        · rw [← Nat.cast_one] at same
          exact Or.inl (eq_of_cast_eq small above same)
        · have last : ((modulus - 1 : Nat) : ZMod modulus) = -1 := by
            rw [Nat.cast_sub above.le, ZMod.natCast_self, Nat.cast_one, zero_sub]
          rw [← last] at opposite
          apply Or.inr
          rw [reachesMinusOne, eq_of_cast_eq small (Nat.sub_lt_self Nat.one_pos above.le) opposite,
            beq_self_eq_true, Bool.true_or]
      · apply Or.inr
        rw [reachesMinusOne, reached, Bool.or_true]

theorem passesBase_of_prime {base : Nat} (apart : ¬ modulus ∣ base) :
    passesBase modulus base = true := by
  have above := prime.out.one_lt
  rcases twoAdicity_dvd (modulus.log2 + 1) (modulus - 1) with ⟨odd, split⟩
  have unit : (base : ZMod modulus) ≠ 0 := fun zero =>
    apart ((ZMod.natCast_eq_zero_iff base modulus).mp zero)
  rw [passesBase]
  simp only [Nat.pow_eq, Bool.or_eq_true, beq_iff_eq]
  apply reachesMinusOne_of_pow_eq_one (Modular.pow_lt (Nat.zero_lt_of_lt above))
  generalize Modular.twoAdicity (modulus.log2 + 1) (modulus - 1) = twos at split
  rw [split, Nat.mul_div_cancel_left _ (Nat.two_pow_pos twos), Modular.cast_pow, ← pow_mul,
    Nat.mul_comm, ← split]
  exact ZMod.pow_card_sub_one_eq_one unit

end Prime

theorem le_of_mem_smallPrimes {value : Nat} (member : value ∈ smallPrimes) :
    2 ≤ value ∧ value < 500 := by
  rcases List.mem_filter.mp member with ⟨small, noDivisor⟩
  simp only [hasNoDivisor, Bool.and_eq_true, decide_eq_true_eq] at noDivisor
  exact ⟨noDivisor.1, List.mem_range.mp small⟩

/-- Every large prime passes the test. -/
theorem isProbablePrime_of_prime {value : Nat} (prime : value.Prime) (large : 500 ≤ value) :
    isProbablePrime value = true := by
  have fact : Fact value.Prime := ⟨prime⟩
  simp only [isProbablePrime, Bool.and_eq_true, List.all_eq_true, bne_iff_ne, ne_eq]
  constructor
  · intro divisor member divides
    rcases le_of_mem_smallPrimes member with ⟨atLeastTwo, small⟩
    rcases (Nat.dvd_prime prime).mp (Nat.dvd_of_mod_eq_zero divides) with rfl | rfl <;> omega
  · intro base member
    rcases le_of_mem_smallPrimes (List.mem_of_mem_take member) with ⟨atLeastTwo, small⟩
    exact passesBase_of_prime (Nat.not_dvd_of_pos_of_lt (by omega) (by omega))

/-! ## What a made key is -/

/-- A key of a number of bits, of two different factors and with a reduced exponent. -/
structure PrivateKey.IsOfSize (key : PrivateKey) (bits : Nat) : Prop where
  bitLength : key.publicKey.bitLength = bits
  different : key.firstFactor ≠ key.secondFactor
  privateExponent_lt : key.privateExponent < key.publicKey.modulus

variable {bits attempts first second : Nat}
  {made : { key : PrivateKey // key.publicKey.bitLength = bits }}

theorem ofNumbers?_of_keyOfPrimes? (found : keyOfPrimes? bits first second = some made) :
    first ≠ second ∧ ∃ privateExponent,
      Modular.inverse? usualExponent ((first - 1) * (second - 1)) = some privateExponent ∧
        PrivateKey.ofNumbers? ⟨first * second, usualExponent⟩ privateExponent first second =
          some made.val := by
  rcases Option.bind_eq_some_iff.mp found with ⟨privateExponent, inverse, found⟩
  rcases Option.bind_eq_some_iff.mp found with ⟨key, numbers, found⟩
  split at found
  · rename_i suitable
    rcases Option.some.inj found with rfl
    exact ⟨suitable.1, privateExponent, inverse, numbers⟩
  · cases found

theorem keyOfPrimes?_eq_some (found : keyOfPrimes? bits first second = some made) :
    made.val.IsOfSize bits ∧ made.val.firstFactor = first ∧ made.val.secondFactor = second := by
  rcases ofNumbers?_of_keyOfPrimes? found with ⟨different, privateExponent, inverse, numbers⟩
  rcases made with ⟨key, bitLength⟩
  rcases PrivateKey.ofNumbers?_eq_some numbers with ⟨publicKey, exponent, rfl, rfl⟩
  have first := key.one_lt_firstFactor
  have second := key.one_lt_secondFactor
  have positive : 0 < (key.firstFactor - 1) * (key.secondFactor - 1) :=
    Nat.mul_pos (Nat.sub_pos_of_lt first) (Nat.sub_pos_of_lt second)
  refine ⟨⟨bitLength, different, ?_⟩, rfl, rfl⟩
  rw [exponent, ← key.factors_mul]
  refine (Modular.inverse?_lt inverse positive).trans_le ?_
  exact Nat.mul_le_mul (Nat.sub_le _ _) (Nat.sub_le _ _)

theorem publicKey_of_keyOfPrimes? (found : keyOfPrimes? bits first second = some made) :
    made.val.publicKey = ⟨first * second, usualExponent⟩ := by
  rcases ofNumbers?_of_keyOfPrimes? found with ⟨_, _, _, numbers⟩
  exact (PrivateKey.ofNumbers?_eq_some numbers).1

theorem isOfSize_of_generateWithin {environment after : Environment}
    (making : generateWithin bits attempts environment = .ok made after) :
    made.val.IsOfSize bits := by
  induction attempts generalizing environment with
  | zero => cases making
  | succ attempts ih =>
      rcases Operation.bind_eq_ok.mp making with ⟨first, between, _, making⟩
      rcases Operation.bind_eq_ok.mp making with ⟨second, last, _, making⟩
      cases found : keyOfPrimes? bits first second with
      | none =>
          rw [found] at making
          exact ih making
      | some other =>
          rw [found] at making
          rcases Operation.pure_eq_ok.mp making with ⟨rfl, _⟩
          exact (keyOfPrimes?_eq_some found).1

theorem isOfSize_of_generate {environment after : Environment}
    (making : generate bits environment = .ok made after) : made.val.IsOfSize bits :=
  isOfSize_of_generateWithin making

/-! ## Keys of the first numbers -/

theorem candidate_large {bits : Nat} (many : 10 ≤ bits) (octets : Octets) :
    500 ≤ candidate bits octets := by
  have power : 2 ^ 8 ≤ 2 ^ (bits - 2) := Nat.pow_le_pow_right Nat.two_pos (by omega)
  simp only [candidate, Nat.pow_eq]
  omega

/-- The number that is tried first, with the supply that is left. -/
def firstCandidate (bits : Nat) (entropy : Entropy) : Nat × Entropy :=
  let drawn := entropy.take ((bits + 7) / 8)
  (candidate bits drawn.1, drawn.2)

theorem findPrime_of_prime {bits attempts : Nat} {entropy : Entropy} (many : 10 ≤ bits)
    (positive : 0 < attempts) (prime : (firstCandidate bits entropy).1.Prime)
    (events : List Event) : findPrime bits attempts ⟨entropy, events⟩ =
      .ok (firstCandidate bits entropy).1 ⟨(firstCandidate bits entropy).2, events⟩ := by
  rcases Nat.exists_eq_succ_of_ne_zero positive.ne' with ⟨attempts, rfl⟩
  refine Operation.bind_eq_ok.mpr ⟨_, ⟨(firstCandidate bits entropy).2, events⟩, rfl, ?_⟩
  exact congrFun (if_pos (isProbablePrime_of_prime prime (candidate_large many _))) _

theorem generateWithin_of_findPrime {environment between after : Environment}
    (firstFound : findPrime (bits / 2) (primeAttempts bits) environment = .ok first between)
    (secondFound : findPrime (bits - bits / 2) (primeAttempts bits) between = .ok second after)
    (found : keyOfPrimes? bits first second = some made) :
    generateWithin bits (attempts + 1) environment = .ok made after := by
  refine Operation.bind_eq_ok.mpr ⟨first, between, firstFound, ?_⟩
  refine Operation.bind_eq_ok.mpr ⟨second, after, secondFound, ?_⟩
  rw [found]
  rfl

/-- A key whose factors are prime and are the first two numbers that a supply gives. -/
structure PrivateKey.IsFirstOf (key : PrivateKey) (bits : Nat) (entropy : Entropy) : Prop where
  many : 20 ≤ bits
  firstDrawn : (firstCandidate (bits / 2) entropy).1 = key.firstFactor
  secondDrawn : (firstCandidate (bits - bits / 2) (firstCandidate (bits / 2) entropy).2).1 =
    key.secondFactor
  firstPrime : key.firstFactor.Prime
  secondPrime : key.secondFactor.Prime
  bitLength : key.publicKey.bitLength = bits
  found : keyOfPrimes? bits key.firstFactor key.secondFactor = some ⟨key, bitLength⟩

/-- The supply that is left after the first two numbers. -/
def afterFactors (bits : Nat) (entropy : Entropy) : Entropy :=
  (firstCandidate (bits - bits / 2) (firstCandidate (bits / 2) entropy).2).2

theorem PrivateKey.IsFirstOf.generate {key : PrivateKey} {entropy : Entropy}
    (isFirst : key.IsFirstOf bits entropy) (events : List Event) :
    Rsa.generate bits ⟨entropy, events⟩ =
      .ok ⟨key, isFirst.bitLength⟩ ⟨afterFactors bits entropy, events⟩ := by
  rcases isFirst with ⟨many, firstDrawn, secondDrawn, firstPrime, secondPrime, bitLength, found⟩
  have positive : 0 < primeAttempts bits := Nat.mul_pos (by decide) (by omega)
  rw [← firstDrawn] at firstPrime
  rw [← secondDrawn] at secondPrime
  rw [← firstDrawn, ← secondDrawn] at found
  exact generateWithin_of_findPrime (findPrime_of_prime (by omega) positive firstPrime events)
    (findPrime_of_prime (by omega) positive secondPrime events) found

/-! ### Two supplies of random octets -/

/-- A number of octets with a low end of zeros and a one. -/
def sampleFactor (octets : Nat) (start : UInt8 × UInt8) : Nat :=
  (3 * 2 ^ 14 + Octets.toNat [start.1, start.2]) * 2 ^ (8 * octets - 16) + 1

/-- Octets that are zero but for the first two of each of two numbers. -/
def sampleEntropy (octets : Nat) (first second : UInt8 × UInt8) : Entropy :=
  ⟨fun place =>
    if place < octets then [first.1, first.2].getD place 0
    else [second.1, second.2].getD (place - octets) 0, 0⟩

theorem sampleFactor_prime {octets : Nat} {start : UInt8 × UInt8} (base : Nat)
    (holds : (Primality.Certificate.predecessor (sampleFactor octets start) base
      [(2, 8 * octets - 16)]).holds [2] = true) : (sampleFactor octets start).Prime :=
  Primality.Certificate.prime_of_holds (List.forall_mem_singleton.mpr Nat.prime_two) holds

theorem isFirstOf_sampleEntropy {octets : Nat} {first second : UInt8 × UInt8} (many : 20 ≤ bits)
    (found : keyOfPrimes? bits (sampleFactor octets first) (sampleFactor octets second) = some made)
    (firstDrawn : (firstCandidate (bits / 2) (sampleEntropy octets first second)).1 =
      sampleFactor octets first)
    (secondDrawn : (firstCandidate (bits - bits / 2)
      (firstCandidate (bits / 2) (sampleEntropy octets first second)).2).1 =
        sampleFactor octets second)
    (firstPrime : (sampleFactor octets first).Prime)
    (secondPrime : (sampleFactor octets second).Prime) :
    made.val.IsFirstOf bits (sampleEntropy octets first second) := by
  rcases keyOfPrimes?_eq_some found with ⟨_, firstFactor, secondFactor⟩
  rw [← firstFactor] at firstDrawn firstPrime
  rw [← secondFactor] at secondDrawn secondPrime
  rw [← firstFactor, ← secondFactor] at found
  exact ⟨many, firstDrawn, secondDrawn, firstPrime, secondPrime, made.property, found⟩

/-- Octets that give a key of 2048 bits. -/
def usualEntropy : Entropy := sampleEntropy 128 (0, 84) (1, 227)

/-- The key of 2048 bits. -/
def usualKey : PrivateKey :=
  ((keyOfPrimes? 2048 (sampleFactor 128 (0, 84)) (sampleFactor 128 (1, 227))).get
    (by decide +kernel)).val

theorem usualKey_isFirst : usualKey.IsFirstOf 2048 usualEntropy :=
  isFirstOf_sampleEntropy (by decide) (Option.some_get _).symm (by decide +kernel)
    (by decide +kernel) (sampleFactor_prime 5 (by decide +kernel))
    (sampleFactor_prime 7 (by decide +kernel))

/-- Octets that give a key of 4112 bits. -/
def longEntropy : Entropy := sampleEntropy 257 (6, 225) (11, 4)

/-- The key of 4112 bits. -/
def longKey : PrivateKey :=
  ((keyOfPrimes? 4112 (sampleFactor 257 (6, 225)) (sampleFactor 257 (11, 4))).get
    (by decide +kernel)).val

theorem longKey_isFirst : longKey.IsFirstOf 4112 longEntropy :=
  isFirstOf_sampleEntropy (by decide) (Option.some_get _).symm (by decide +kernel)
    (by decide +kernel) (sampleFactor_prime 7 (by decide +kernel))
    (sampleFactor_prime 5 (by decide +kernel))

end CertAuthority.Rsa
