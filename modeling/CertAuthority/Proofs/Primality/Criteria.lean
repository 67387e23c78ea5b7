import CertAuthority.Proofs.Modular
import Mathlib.FieldTheory.IsAlgClosed.AlgebraicClosure
import Mathlib.GroupTheory.OrderOfElement

/-!
# Criteria of primality

A number is prime if enough of its predecessor is known in factors and one base
has powers that show it (Pocklington's criterion).  It is prime as well if its
successor has one large prime factor (Morrison's criterion): instead of powers
of a base there are sums of powers of two numbers, which are inverse to each
other and lie in a quadratic extension for the prime divisors that matter.
-/

namespace CertAuthority.Primality

/-! ## Factors of the predecessor -/

/-- Every prime divisor is larger than the factored part of the predecessor. -/
theorem factored_lt_of_prime_dvd {value base factored cofactor divisor : Nat}
    (split : factored * cofactor + 1 = value) (positive : 0 < factored)
    (power : base ^ (value - 1) % value = 1)
    (apart : ∀ factor, factor.Prime → factor ∣ factored →
      Nat.Coprime (base ^ ((value - 1) / factor) % value + (value - 1)) value)
    (prime : divisor.Prime) (divides : divisor ∣ value) : factored < divisor := by
  have fact : Fact divisor.Prime := ⟨prime⟩
  have predecessor : value - 1 = factored * cofactor := by omega
  have residue : ((value - 1 : Nat) : ZMod divisor) = -1 := by
    rw [Nat.cast_sub (by omega), (ZMod.natCast_eq_zero_iff _ _).mpr divides, Nat.cast_one,
      zero_sub]
  have whole : (base : ZMod divisor) ^ (factored * cofactor) = 1 := by
    rw [← predecessor, ← Nat.cast_pow, ← Modular.cast_mod_of_dvd divides, power, Nat.cast_one]
  have order : orderOf ((base : ZMod divisor) ^ cofactor) = factored := by
    refine orderOf_eq_of_pow_and_pow_div_prime positive ?_ ?_
    · rw [← pow_mul, Nat.mul_comm, whole]
    · intro factor factorPrime factorDivides one
      have exponent : (value - 1) / factor = cofactor * (factored / factor) := by
        rw [predecessor, Nat.mul_comm, Nat.mul_div_assoc _ factorDivides]
      have zero : ((base ^ ((value - 1) / factor) % value + (value - 1) : Nat) : ZMod divisor) =
          0 := by
        rw [Nat.cast_add, Modular.cast_mod_of_dvd divides, Nat.cast_pow, residue, exponent,
          pow_mul, one]
        ring
      have common := (ZMod.natCast_eq_zero_iff _ _).mp zero
      exact prime.one_lt.ne' (Nat.eq_one_of_dvd_coprimes (apart factor factorPrime factorDivides)
        common divides)
  have unit : (base : ZMod divisor) ^ cofactor ≠ 0 := by
    intro zero
    rw [Nat.mul_comm, pow_mul, zero, zero_pow positive.ne'] at whole
    exact zero_ne_one whole
  have below := Nat.le_of_dvd (Nat.sub_pos_of_lt prime.one_lt)
    (orderOf_dvd_of_pow_eq_one (ZMod.pow_card_sub_one_eq_one unit))
  rw [order] at below
  have := prime.one_lt
  omega

/-- A number is prime if the factored part of its predecessor is above its square root. -/
theorem prime_of_factored {value base factored cofactor : Nat}
    (split : factored * cofactor + 1 = value) (large : value < factored * factored)
    (power : base ^ (value - 1) % value = 1)
    (apart : ∀ factor, factor.Prime → factor ∣ factored →
      Nat.Coprime (base ^ ((value - 1) / factor) % value + (value - 1)) value) :
    value.Prime := by
  have positive : 0 < factored := by
    rcases Nat.eq_zero_or_pos factored with rfl | positive
    · cases large
    · exact positive
  have proper : value ≠ 1 := by
    rintro rfl
    rw [Nat.mod_one] at power
    cases power
  by_contra composite
  have small := Nat.minFac_sq_le_self (by omega) composite
  have above := factored_lt_of_prime_dvd split positive power apart (Nat.minFac_prime proper)
    (Nat.minFac_dvd value)
  have squares := Nat.mul_lt_mul'' above above
  rw [sq] at small
  omega

/-! ## A factor of the successor -/

/-- The sums of the powers to an exponent, and to the next one, of two numbers with product one
and with a given sum. -/
def powerSums (sum exponent modulus : Nat) : Nat × Nat :=
  (Modular.bits exponent).foldl
    (fun sums bit =>
      let between := (sums.1 * sums.2 + (modulus - sum)) % modulus
      if bit then (between, (sums.2 * sums.2 + (modulus - 2)) % modulus)
      else ((sums.1 * sums.1 + (modulus - 2)) % modulus, between))
    (2 % modulus, sum % modulus)

section PowerSums

variable {K : Type*} [Field K] {divisor modulus : Nat} [CharP K divisor]

theorem cast_mod_of_charP (divides : divisor ∣ modulus) (value : Nat) :
    ((value % modulus : Nat) : K) = value := by
  have zero : (modulus : K) = 0 := (CharP.cast_eq_zero_iff K divisor modulus).mpr divides
  have division := congrArg (Nat.cast : Nat → K) (Nat.div_add_mod value modulus)
  rwa [Nat.cast_add, Nat.cast_mul, zero, zero_mul, zero_add] at division

theorem cast_modulus_sub (divides : divisor ∣ modulus) {value : Nat} (below : value ≤ modulus) :
    ((modulus - value : Nat) : K) = -value := by
  rw [Nat.cast_sub below, (CharP.cast_eq_zero_iff K divisor modulus).mpr divides, zero_sub]

theorem cast_powerSums {sum : Nat} {root inverse : K} (divides : divisor ∣ modulus)
    (two : 2 ≤ modulus) (below : sum ≤ modulus) (total : root + inverse = sum)
    (product : root * inverse = 1) (exponent : Nat) :
    ((powerSums sum exponent modulus).1 : K) = root ^ exponent + inverse ^ exponent := by
  refine (Modular.foldl_bits (fun exponent (sums : Nat × Nat) =>
    (sums.1 : K) = root ^ exponent + inverse ^ exponent ∧
      (sums.2 : K) = root ^ (exponent + 1) + inverse ^ (exponent + 1)) ?_ ?_ exponent).1
  · constructor
    · rw [cast_mod_of_charP divides]
      norm_num
    · rw [cast_mod_of_charP divides, zero_add, pow_one, pow_one, total]
  · rintro exponent ⟨low, high⟩ bit ⟨lowSum, highSum⟩
    have powers := pow_mul_pow_eq_one exponent product
    simp only at lowSum highSum
    have between : ((low * high + (modulus - sum) : Nat) : K) =
        root ^ (2 * exponent + 1) + inverse ^ (2 * exponent + 1) := by
      rw [Nat.cast_add, Nat.cast_mul, cast_modulus_sub divides below, lowSum, highSum, ← total]
      linear_combination (root + inverse) * powers
    have doubled : ((low * low + (modulus - 2) : Nat) : K) =
        root ^ (2 * exponent) + inverse ^ (2 * exponent) := by
      rw [Nat.cast_add, Nat.cast_mul, cast_modulus_sub divides two, lowSum]
      push_cast
      linear_combination 2 * powers
    have doubledNext : ((high * high + (modulus - 2) : Nat) : K) =
        root ^ (2 * exponent + 2) + inverse ^ (2 * exponent + 2) := by
      rw [Nat.cast_add, Nat.cast_mul, cast_modulus_sub divides two, highSum]
      push_cast
      linear_combination 2 * (root * inverse) * powers + 2 * product
    cases bit with
    | false => exact ⟨(cast_mod_of_charP divides _).trans doubled,
        (cast_mod_of_charP divides _).trans between⟩
    | true => exact ⟨(cast_mod_of_charP divides _).trans between,
        (cast_mod_of_charP divides _).trans doubledNext⟩

end PowerSums

/-! ### The roots -/

section Roots

variable {K : Type*} [Field K] {root inverse : K}

/-- Powers with the sum two are one, since their product is one. -/
theorem pow_eq_one_of_sum_eq_two (product : root * inverse = 1) {exponent : Nat}
    (two : root ^ exponent + inverse ^ exponent = 2) : root ^ exponent = 1 := by
  have powers := pow_mul_pow_eq_one exponent product
  have square : (root ^ exponent - 1) ^ 2 = 0 := by
    linear_combination root ^ exponent * two - powers
  exact sub_eq_zero.mp (pow_eq_zero_iff (by decide) |>.mp square)

variable (divisor : Nat) [Fact divisor.Prime] [CharP K divisor] {sum : Nat}

/-- The Frobenius map keeps the roots of `x ^ 2 - sum * x + 1` or exchanges them. -/
theorem pow_char_eq_or (total : root + inverse = sum) (product : root * inverse = 1) :
    root ^ divisor = root ∨ root ^ divisor = inverse := by
  have kept : root ^ divisor + inverse ^ divisor = root + inverse := by
    rw [← add_pow_char, total]
    exact (map_natCast (frobenius K divisor) sum)
  have powers := pow_mul_pow_eq_one divisor product
  have zero : (root ^ divisor - root) * (root ^ divisor - inverse) = 0 := by
    linear_combination product - powers + root ^ divisor * kept
  rcases mul_eq_zero.mp zero with same | other
  · exact Or.inl (sub_eq_zero.mp same)
  · exact Or.inr (sub_eq_zero.mp other)

/-- The order of a root divides the predecessor or the successor of the characteristic. -/
theorem orderOf_dvd_pred_or_succ (total : root + inverse = sum) (product : root * inverse = 1) :
    orderOf root ∣ divisor - 1 ∨ orderOf root ∣ divisor + 1 := by
  have prime : divisor.Prime := Fact.out
  rcases pow_char_eq_or divisor total product with same | other
  · refine Or.inl (orderOf_dvd_of_pow_eq_one ?_)
    refine mul_right_cancel₀ (left_ne_zero_of_mul_eq_one product) ?_
    rw [← pow_succ, Nat.sub_add_cancel prime.one_le, same, one_mul]
  · refine Or.inr (orderOf_dvd_of_pow_eq_one ?_)
    rw [pow_succ, other, mul_comm, product]

end Roots

theorem exists_root (K : Type*) [Field K] [IsAlgClosed K] (sum : Nat) :
    ∃ root inverse : K, root + inverse = sum ∧ root * inverse = 1 := by
  have degree : (Polynomial.C (1 : K) * Polynomial.X ^ 2 + Polynomial.C (-(sum : K)) *
      Polynomial.X + Polynomial.C 1).degree = 2 := Polynomial.degree_quadratic one_ne_zero
  rcases IsAlgClosed.exists_root _ (ne_of_eq_of_ne degree (by decide)) with ⟨root, isRoot⟩
  refine ⟨root, sum - root, add_sub_cancel _ _, ?_⟩
  simp only [Polynomial.IsRoot.def, Polynomial.eval_add, Polynomial.eval_mul, Polynomial.eval_C,
    Polynomial.eval_pow, Polynomial.eval_X] at isRoot
  linear_combination -isRoot

/-- A prime factor of the successor is at most the successor of a prime divisor. -/
theorem le_succ_of_prime_dvd {value sum factor divisor : Nat} (two : 2 ≤ value)
    (below : sum ≤ value) (factorPrime : factor.Prime) (split : factor ∣ value + 1)
    (whole : (powerSums sum (value + 1) value).1 = 2)
    (apart : Nat.Coprime ((powerSums sum ((value + 1) / factor) value).1 + (value - 2)) value)
    (prime : divisor.Prime) (divides : divisor ∣ value) :
    factor ≤ divisor + 1 := by
  have fact : Fact divisor.Prime := ⟨prime⟩
  rcases exists_root (AlgebraicClosure (ZMod divisor)) sum with ⟨root, inverse, total, product⟩
  have sums := cast_powerSums divides two below total product
  have unit : root ^ (value + 1) = 1 := by
    apply pow_eq_one_of_sum_eq_two product
    rw [← sums, whole, Nat.cast_ofNat]
  have proper : root ^ ((value + 1) / factor) ≠ 1 := by
    intro one
    have inverseOne := pow_mul_pow_eq_one ((value + 1) / factor) product
    rw [one, one_mul] at inverseOne
    have zero : (((powerSums sum ((value + 1) / factor) value).1 + (value - 2) : Nat) :
        AlgebraicClosure (ZMod divisor)) = 0 := by
      rw [Nat.cast_add, sums, one, inverseOne, cast_modulus_sub divides two]
      norm_num
    have common := (CharP.cast_eq_zero_iff _ divisor _).mp zero
    exact prime.one_lt.ne' (Nat.eq_one_of_dvd_coprimes apart common divides)
  have order : orderOf (root ^ ((value + 1) / factor)) = factor := by
    have factorFact : Fact factor.Prime := ⟨factorPrime⟩
    refine orderOf_eq_prime ?_ proper
    rw [← pow_mul, Nat.div_mul_cancel split, unit]
  have orderDivides : factor ∣ orderOf root := order ▸ orderOf_pow_dvd _
  have one_lt := prime.one_lt
  rcases orderOf_dvd_pred_or_succ divisor total product with period | period
  · have := Nat.le_of_dvd (by omega) (orderDivides.trans period)
    omega
  · exact Nat.le_of_dvd (by omega) (orderDivides.trans period)

/-- A number is prime if its successor has a prime factor that is, less one, above its square
root. -/
theorem prime_of_successor {value sum factor : Nat} (two : 2 ≤ value) (below : sum ≤ value)
    (factorPrime : factor.Prime) (split : factor ∣ value + 1)
    (large : value < (factor - 1) * (factor - 1))
    (whole : (powerSums sum (value + 1) value).1 = 2)
    (apart : Nat.Coprime ((powerSums sum ((value + 1) / factor) value).1 + (value - 2)) value) :
    value.Prime := by
  by_contra composite
  have small := Nat.minFac_sq_le_self (by omega) composite
  have above := le_succ_of_prime_dvd two below factorPrime split whole apart
    (Nat.minFac_prime (by omega)) (Nat.minFac_dvd value)
  have squares := Nat.mul_le_mul (Nat.sub_le_of_le_add above) (Nat.sub_le_of_le_add above)
  rw [sq] at small
  omega

end CertAuthority.Primality
