import CertAuthority.Der.Value
import CertAuthority.X509.AlgorithmIdentifier

/-!
# Public keys in certificates

A certificate carries the algorithm of a public key and the bits of the key,
whose form depends on the algorithm.
-/

namespace CertAuthority.X509

open Der (BitString Decoder)

/-- A public key with its algorithm. -/
structure PublicKeyInfo where
  algorithm : AlgorithmIdentifier
  key : BitString
deriving DecidableEq

namespace PublicKeyInfo

/-- The key with its algorithm as octets. -/
def encode (info : PublicKeyInfo) : Octets :=
  Der.encode Der.Tag.sequence (info.algorithm.encode ++ info.key.encode)

/-- Reads algorithm and bits. -/
def decodeContent : Decoder PublicKeyInfo := fun octets => do
  let (algorithm, rest) ← AlgorithmIdentifier.decode octets
  let (key, rest) ← BitString.decode rest
  return (⟨algorithm, key⟩, rest)

/-- Reads a key with its algorithm. -/
def decode : Decoder PublicKeyInfo :=
  Der.decodeNested Der.Tag.sequence decodeContent

end PublicKeyInfo

end CertAuthority.X509
