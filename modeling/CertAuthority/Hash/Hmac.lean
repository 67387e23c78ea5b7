import CertAuthority.Hash.Sha256
import CertAuthority.Hash.Sha512

/-!
# Digest algorithms and keyed digests

`Hash.Algorithm` names the digests signatures are made with; `hmac` keys one of
them, which the deterministic choice of signature nonces is built on.
-/

namespace CertAuthority.Hash

/-- The SHA-2 digests. -/
inductive Algorithm where
  | sha224
  | sha256
  | sha384
  | sha512
deriving DecidableEq

namespace Algorithm

/-- The digest of a message. -/
def digest : Algorithm → Octets → Octets
  | sha224 => Sha256.sha224
  | sha256 => Sha256.sha256
  | sha384 => Sha512.sha384
  | sha512 => Sha512.sha512

/-- How many octets a digest has. -/
def size : Algorithm → Nat
  | sha224 => 28
  | sha256 => 32
  | sha384 => 48
  | sha512 => 64

/-- How many octets the compression reads at a time. -/
def blockSize : Algorithm → Nat
  | sha224 => 64
  | sha256 => 64
  | sha384 => 128
  | sha512 => 128

/-- The key fitted to one block: digested if longer, then filled with zeros. -/
def blockKey (algorithm : Algorithm) (key : Octets) : Octets :=
  let short := if key.length > algorithm.blockSize then algorithm.digest key else key
  short ++ List.replicate (algorithm.blockSize - short.length) 0

/-- The keyed digest of a message. -/
def hmac (algorithm : Algorithm) (key message : Octets) : Octets :=
  let fitted := algorithm.blockKey key
  let inner := algorithm.digest (fitted.map (· ^^^ 0x36) ++ message)
  algorithm.digest (fitted.map (· ^^^ 0x5c) ++ inner)

end Algorithm

end CertAuthority.Hash
