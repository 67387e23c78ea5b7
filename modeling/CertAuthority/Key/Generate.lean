import CertAuthority.Key.Policy
import CertAuthority.Key.Stored
import CertAuthority.Rsa.Generate

/-!
# Making keys

A fresh key comes with the file that stores it, in the encoding of its
algorithm.  It is recorded under the algorithm and the size that were asked for,
and whatever makes the key pair proves that it has these.

There are three sizes of keys on curves; for any other the program ends.
-/

namespace CertAuthority

namespace KeyPair

/-- The file that stores a key pair. -/
def file : KeyPair → Octets
  | rsa key => Pem.encode "RSA PRIVATE KEY" key.encode
  | ecdsa _ scalar => Pem.encode "EC PRIVATE KEY" (EllipticCurveKey.ofScalar scalar).encode

/-- Draws a scalar of a curve. -/
def drawScalar (curve : NistCurve) : Operation (NistCurve.Scalar curve) := do
  return scalarOfEntropy curve (← Operation.draw (scalarEntropy curve))

theorem agrees_rsa {key : Rsa.PrivateKey} {bits : Nat}
    (bitLength : key.publicKey.bitLength = bits) : (rsa key).Agrees .rsa bits := by
  subst bitLength
  exact (rsa key).agrees

/-- Makes a key pair of an algorithm and a size. -/
def generate (algorithm : KeyAlgorithm) (size : Nat) :
    Operation { pair : KeyPair // pair.Agrees algorithm size } :=
  match algorithm, size with
  | .ecdsa, 256 => do return ⟨ecdsa .p256 (← drawScalar .p256), rfl, rfl⟩
  | .ecdsa, 384 => do return ⟨ecdsa .p384 (← drawScalar .p384), rfl, rfl⟩
  | .ecdsa, 521 => do return ⟨ecdsa .p521 (← drawScalar .p521), rfl, rfl⟩
  | .ecdsa, size => throw (.unexpectedKeySize size)
  | .rsa, size => do
      let ⟨key, bitLength⟩ ← Rsa.generate size
      return ⟨rsa key, agrees_rsa bitLength⟩

end KeyPair

namespace Key

/-- Makes a key of an algorithm and a size, zero standing for the default. -/
def generate (algorithm : KeyAlgorithm) (size : Nat) : Operation Key := do
  Operation.ofExcept (algorithm.validateSize size)
  let size := algorithm.resolveSize size
  Operation.report (.generatingKey algorithm size)
  let ⟨pair, agrees⟩ ← KeyPair.generate algorithm size
  return ⟨algorithm, size, pair, pair.file, agrees⟩

end Key

end CertAuthority
