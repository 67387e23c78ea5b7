import CertAuthority.SignatureAlgorithm

/-!
# Key algorithms and sizes

The key algorithms a request may ask for, with the sizes each accepts.  A size
of zero stands for the default of the algorithm.
-/

namespace CertAuthority

/-- The key algorithms a request may ask for. -/
inductive KeyAlgorithm where
  | ecdsa
  | rsa
deriving DecidableEq

namespace KeyAlgorithm

/-- The name of an algorithm in a request. -/
def name : KeyAlgorithm → String
  | ecdsa => "ecdsa"
  | rsa => "rsa"

/-- The algorithm with a name. -/
def ofName? (name : String) : Option KeyAlgorithm :=
  if name = ecdsa.name then some ecdsa
  else if name = rsa.name then some rsa
  else none

/-- Bits of the smallest modulus a request may ask for. -/
def minRsaSize : Nat := 2048

/-- Bits of the largest modulus a request may ask for. -/
def maxRsaSize : Nat := 8192

/-- The size that zero stands for. -/
def defaultSize : KeyAlgorithm → Nat
  | ecdsa => 256
  | rsa => 4096

/-- Whether a request may ask for a size. -/
def acceptsSize : KeyAlgorithm → Nat → Bool
  | ecdsa, size => [0, 256, 384, 521].contains size
  | rsa, size => size == 0 || (minRsaSize ≤ size && size ≤ maxRsaSize)

/-- The size a request asks for, the default for zero. -/
def resolveSize (algorithm : KeyAlgorithm) (size : Nat) : Nat :=
  if size = 0 then algorithm.defaultSize else size

/--
The signature algorithm of keys of a size: the digest grows with the size.
There are no elliptic-curve keys of other sizes than three.
-/
def signatureAlgorithm? : KeyAlgorithm → Nat → Option SignatureAlgorithm
  | ecdsa, 256 => some .ecdsaSha256
  | ecdsa, 384 => some .ecdsaSha384
  | ecdsa, 521 => some .ecdsaSha512
  | ecdsa, _ => none
  | rsa, size =>
      if 4096 ≤ size then some .rsaSha512
      else if 3072 ≤ size then some .rsaSha384
      else some .rsaSha256

end KeyAlgorithm

end CertAuthority
