import CertAuthority.Proofs.Primality.Criteria
import Mathlib.Data.List.Prime

/-!
# Certificates of primality

A certificate says how one of the criteria of primality shows that a number is
prime.  In a list of certificates, every factor is a number that is known to be
prime or that an earlier certificate is about.
-/

namespace CertAuthority.Primality

/-- How a number is shown to be prime. -/
inductive Certificate where
  /-- By a base and prime factors of the predecessor, each with its power. -/
  | predecessor (value base : Nat) (factors : List (Nat × Nat))
  /-- By a sum and a large prime factor of the successor. -/
  | successor (value sum factor : Nat)

namespace Certificate

/-- The number that is shown to be prime. -/
def value : Certificate → Nat
  | predecessor value _ _ => value
  | successor value _ _ => value

/-- A product of powers. -/
def product (factors : List (Nat × Nat)) : Nat :=
  (factors.map fun factor => factor.1 ^ factor.2).prod

/-- Whether the criterion holds, given numbers that are known to be prime. -/
def holds (known : List Nat) : Certificate → Bool
  | predecessor value base factors =>
      let power := fun exponent => Modular.pow base exponent value
      factors.all (known.contains ·.1) &&
        value < product factors * product factors &&
        product factors * ((value - 1) / product factors) + 1 == value &&
        power (value - 1) == 1 &&
        factors.all fun factor =>
          Nat.gcd (power ((value - 1) / factor.1) + (value - 1)) value == 1
  | successor value sum factor =>
      known.contains factor && 2 ≤ value && sum ≤ value && (value + 1) % factor == 0 &&
        value < (factor - 1) * (factor - 1) &&
        (powerSums sum (value + 1) value).1 == 2 &&
        Nat.gcd ((powerSums sum ((value + 1) / factor) value).1 + (value - 2)) value == 1

theorem prime_of_holds {known : List Nat} {certificate : Certificate}
    (prime : ∀ value ∈ known, value.Prime) (holds : certificate.holds known = true) :
    certificate.value.Prime := by
  cases certificate with
  | predecessor value base factors =>
      simp only [Certificate.holds, Bool.and_eq_true, List.all_eq_true, List.contains_iff_mem,
        decide_eq_true_eq, beq_iff_eq, Modular.pow_eq] at holds
      rcases holds with ⟨⟨⟨⟨allKnown, large⟩, split⟩, power⟩, apart⟩
      apply prime_of_factored split large power
      intro factor factorPrime divides
      rcases (Prime.dvd_prod_iff factorPrime.prime).mp divides with ⟨part, member, within⟩
      rcases List.mem_map.mp member with ⟨known, inside, rfl⟩
      have same := (Nat.prime_dvd_prime_iff_eq factorPrime (prime _ (allKnown known inside))).mp
        (factorPrime.dvd_of_dvd_pow within)
      rw [same]
      exact apart known inside
  | successor value sum factor =>
      simp only [Certificate.holds, Bool.and_eq_true, List.contains_iff_mem, decide_eq_true_eq,
        beq_iff_eq] at holds
      rcases holds with ⟨⟨⟨⟨⟨⟨inside, two⟩, below⟩, split⟩, large⟩, whole⟩, apart⟩
      exact prime_of_successor two below (prime factor inside) (Nat.dvd_of_mod_eq_zero split)
        large whole apart

end Certificate

/-- Whether every certificate of a list holds, given the numbers before it. -/
def allHold : (known : List Nat) → List Certificate → Bool
  | _, [] => true
  | known, certificate :: rest =>
      certificate.holds known && allHold (certificate.value :: known) rest

theorem prime_of_allHold {known : List Nat} {certificates : List Certificate}
    (prime : ∀ value ∈ known, value.Prime) (hold : allHold known certificates = true) :
    ∀ certificate ∈ certificates, certificate.value.Prime := by
  induction certificates generalizing known with
  | nil => nofun
  | cons head tail ih =>
      rw [allHold, Bool.and_eq_true] at hold
      have first := Certificate.prime_of_holds prime hold.1
      have others := ih (List.forall_mem_cons.mpr ⟨first, prime⟩) hold.2
      exact List.forall_mem_cons.mpr ⟨first, others⟩

end CertAuthority.Primality
