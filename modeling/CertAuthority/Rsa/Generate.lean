import CertAuthority.Operation
import CertAuthority.Rsa.Key

/-!
# Making RSA keys

The factors of a modulus are random odd numbers that pass a test which numbers
with factors hardly ever pass.  How many numbers are tried is bounded, so that
making a key may fail.  A key that is made has the number of bits that was asked
for, since pairs of factors of another size are passed over.
-/

namespace CertAuthority.Rsa

/-- Whether a number above one has no divisor but itself, by trying all smaller ones. -/
def hasNoDivisor (value : Nat) : Bool :=
  2 ≤ value && (List.range value).all fun divisor => divisor < 2 || value % divisor != 0

/-- The primes below 500. -/
def smallPrimes : List Nat :=
  (List.range 500).filter hasNoDivisor

/-- Whether one of `count` squarings takes a residue to minus one. -/
def reachesMinusOne (modulus : Nat) : (count : Nat) → Nat → Bool
  | 0, _ => false
  | count + 1, value =>
      value == modulus - 1 || reachesMinusOne modulus count (value * value % modulus)

/-- Whether the powers of a base behave as they do for a prime modulus. -/
def passesBase (value base : Nat) : Bool :=
  let twos := Modular.twoAdicity (value.log2 + 1) (value - 1)
  let power := Modular.pow base ((value - 1) / Nat.pow 2 twos) value
  power == 1 || reachesMinusOne value twos power

/-- Whether a large number is prime, as far as small divisors and twenty bases tell. -/
def isProbablePrime (value : Nat) : Bool :=
  smallPrimes.all (value % · != 0) && (smallPrimes.take 20).all (passesBase value)

/-- The odd number of a given number of bits, the two highest of them set, from random octets. -/
def candidate (bits : Nat) (octets : Octets) : Nat :=
  let low := Octets.toNat octets % Nat.pow 2 (bits - 2)
  3 * Nat.pow 2 (bits - 2) + (low / 2 * 2 + 1)

/-- Draws numbers of a given number of bits until one is prime. -/
def findPrime (bits : Nat) : (attempts : Nat) → Operation Nat
  | 0 => throw .keyGenerationFailed
  | attempts + 1 => do
      let value := candidate bits (← Operation.draw ((bits + 7) / 8))
      if isProbablePrime value then return value else findPrime bits attempts

/-- The public exponent of keys that are made. -/
def usualExponent : Nat := 65537

/-- The key of two primes, if it has the size that is wanted. -/
def keyOfPrimes? (bits first second : Nat) :
    Option { key : PrivateKey // key.publicKey.bitLength = bits } := do
  let privateExponent ← Modular.inverse? usualExponent ((first - 1) * (second - 1))
  let key ← PrivateKey.ofNumbers? ⟨first * second, usualExponent⟩ privateExponent first second
  if suitable : first ≠ second ∧ key.publicKey.bitLength = bits then some ⟨key, suitable.2⟩
  else none

/-- Numbers that are tried for one prime. -/
def primeAttempts (bits : Nat) : Nat := 64 * bits

/-- Makes a key of a given number of bits; `attempts` bounds the pairs of primes. -/
def generateWithin (bits : Nat) :
    (attempts : Nat) → Operation { key : PrivateKey // key.publicKey.bitLength = bits }
  | 0 => throw .keyGenerationFailed
  | attempts + 1 => do
      let first ← findPrime (bits / 2) (primeAttempts bits)
      let second ← findPrime (bits - bits / 2) (primeAttempts bits)
      match keyOfPrimes? bits first second with
      | some key => return key
      | none => generateWithin bits attempts

/-- Makes a key of a given number of bits. -/
def generate (bits : Nat) : Operation { key : PrivateKey // key.publicKey.bitLength = bits } :=
  generateWithin bits 64

end CertAuthority.Rsa
