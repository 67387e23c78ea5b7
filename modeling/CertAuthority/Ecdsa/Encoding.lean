import CertAuthority.Der.Value
import CertAuthority.Ecdsa.Basic

/-!
# Written elliptic-curve signatures

A signature is written as a sequence of its two scalars.
-/

namespace CertAuthority.Ecdsa.Signature

/-- The signature as octets. -/
def encode (signature : Signature) : Octets :=
  Der.encode Der.Tag.sequence (Der.encodeUnsigned signature.r ++ Der.encodeUnsigned signature.s)

/-- Reads the two scalars. -/
def decodePair : Der.Decoder Signature := fun octets => do
  let (r, rest) ← Der.decodeUnsigned octets
  let (s, rest) ← Der.decodeUnsigned rest
  return (⟨r, s⟩, rest)

/-- Reads a signature for a curve: both scalars are positive and below the order. -/
def decode? (curve : NistCurve) (octets : Octets) : Option Signature := do
  let signature ← Der.complete (Der.decodeNested Der.Tag.sequence decodePair) octets
  let order := curve.params.order
  if 0 < signature.r ∧ signature.r < order ∧ 0 < signature.s ∧ signature.s < order then
    some signature
  else none

end CertAuthority.Ecdsa.Signature
