import CertAuthority.Der.Value
import CertAuthority.Modular

/-!
# RSA keys

A private key holds the two factors of its modulus.  `PrivateKey.consistent`
says what is required of its numbers: the public part is sound, the factors
multiply to the modulus, and the exponents are inverse to each other modulo
each factor minus one.  That the factors are prime is not required.

Both kinds of key are written as sequences of numbers; reading the octets that
`encode` writes gives the key back.
-/

namespace CertAuthority.Rsa

/-- The part of a key that signatures are checked with. -/
structure PublicKey where
  modulus : Nat
  exponent : Nat
deriving DecidableEq

namespace PublicKey

/-- The largest exponent that is supported. -/
def maxExponent : Nat := 0x1ffffffff

/-- Bits of the modulus. -/
def bitLength (key : PublicKey) : Nat :=
  if key.modulus = 0 then 0 else key.modulus.log2 + 1

/-- There is one number of bits for a modulus between two powers of two. -/
theorem bitLength_eq_of_bounds {key : PublicKey} {bits : Nat}
    (atLeast : Nat.pow 2 (bits - 1) ≤ key.modulus) (below : key.modulus < Nat.pow 2 bits) :
    key.bitLength = bits := by
  have nonzero : key.modulus ≠ 0 := Nat.ne_of_gt (Nat.lt_of_lt_of_le (Nat.two_pow_pos _) atLeast)
  have positive : bits ≠ 0 := by
    rintro rfl
    exact nonzero (Nat.lt_one_iff.mp below)
  obtain ⟨highest, rfl⟩ := Nat.exists_eq_succ_of_ne_zero positive
  rw [bitLength, if_neg nonzero]
  exact congrArg Nat.succ ((Nat.log2_eq_iff nonzero).mpr ⟨atLeast, below⟩)

/-- Octets of the modulus, and of every signature. -/
def size (key : PublicKey) : Nat :=
  Octets.byteLength key.modulus

/-- Whether modulus and exponent are odd and the exponent is in range. -/
def isSound (key : PublicKey) : Bool :=
  key.exponent < key.modulus && key.modulus % 2 == 1 && key.exponent % 2 == 1 &&
    2 ≤ key.exponent && key.exponent ≤ maxExponent

theorem one_lt_modulus {key : PublicKey} (sound : key.isSound = true) : 1 < key.modulus := by
  simp only [isSound, Bool.and_eq_true, decide_eq_true_eq] at sound
  omega

/-- The modulus of a sound key lies between the powers of two that its number of bits stands for. -/
theorem modulus_bounds {key : PublicKey} (sound : key.isSound = true) :
    Nat.pow 2 (key.bitLength - 1) ≤ key.modulus ∧ key.modulus < Nat.pow 2 key.bitLength := by
  have nonzero : key.modulus ≠ 0 := Nat.ne_zero_of_lt (one_lt_modulus sound)
  rw [bitLength, if_neg nonzero, Nat.add_sub_cancel]
  exact ⟨Nat.log2_self_le nonzero, Nat.lt_log2_self⟩

/-- The key as octets. -/
def encode (key : PublicKey) : Octets :=
  Der.encode Der.Tag.sequence (Der.encodeUnsigned key.modulus ++ Der.encodeUnsigned key.exponent)

/-- Reads modulus and exponent. -/
def decodeNumbers : Der.Decoder PublicKey := fun octets => do
  let (modulus, rest) ← Der.decodeUnsigned octets
  let (exponent, rest) ← Der.decodeUnsigned rest
  return (⟨modulus, exponent⟩, rest)

/-- Reads a sound key. -/
def decode? (octets : Octets) : Option PublicKey := do
  let key ← Der.complete (Der.decodeNested Der.Tag.sequence decodeNumbers) octets
  if key.isSound then some key else none

end PublicKey

/-- Whether two numbers above one multiply to the modulus and the exponents undo each other. -/
def areFactors (publicKey : PublicKey) (privateExponent first second : Nat) : Bool :=
  1 < first && 1 < second && first * second == publicKey.modulus &&
    publicKey.exponent * privateExponent % (first - 1) == 1 &&
    publicKey.exponent * privateExponent % (second - 1) == 1

/-- A key that makes signatures. -/
structure PrivateKey where
  publicKey : PublicKey
  privateExponent : Nat
  firstFactor : Nat
  secondFactor : Nat
  consistent : (publicKey.isSound &&
    areFactors publicKey privateExponent firstFactor secondFactor) = true
deriving DecidableEq

namespace PrivateKey

theorem isSound (key : PrivateKey) : key.publicKey.isSound = true := by
  have consistent := key.consistent
  rw [Bool.and_eq_true] at consistent
  exact consistent.1

/-- The key of the given numbers, if they are consistent. -/
def ofNumbers? (publicKey : PublicKey) (privateExponent firstFactor secondFactor : Nat) :
    Option PrivateKey :=
  if h : (publicKey.isSound &&
      areFactors publicKey privateExponent firstFactor secondFactor) = true then
    some ⟨publicKey, privateExponent, firstFactor, secondFactor, h⟩
  else none

/-- The private exponent reduced for the first factor. -/
def firstExponent (key : PrivateKey) : Nat :=
  key.privateExponent % (key.firstFactor - 1)

/-- The private exponent reduced for the second factor. -/
def secondExponent (key : PrivateKey) : Nat :=
  key.privateExponent % (key.secondFactor - 1)

/-- The inverse of the second factor modulo the first, if they have no common divisor. -/
def coefficient? (key : PrivateKey) : Option Nat :=
  Modular.inverse? key.secondFactor key.firstFactor

/-- The key as octets: a zero version and eight numbers. -/
def encode (key : PrivateKey) : Octets :=
  Der.encode Der.Tag.sequence
    ([0, key.publicKey.modulus, key.publicKey.exponent, key.privateExponent, key.firstFactor,
      key.secondFactor, key.firstExponent, key.secondExponent,
      key.coefficient?.getD 0].flatMap Der.encodeUnsigned)

/-- Reads a key of two factors.  The last three numbers are computed again, not kept. -/
def decode? (octets : Octets) : Option PrivateKey := do
  let numbers ← Der.complete (Der.decodeList Der.Tag.sequence Der.decodeUnsigned) octets
  match numbers with
  | [version, modulus, exponent, privateExponent, first, second, _, _, _] =>
      if version = 0 then ofNumbers? ⟨modulus, exponent⟩ privateExponent first second else none
  | _ => none

end PrivateKey

end CertAuthority.Rsa
