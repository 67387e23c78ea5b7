import CertAuthority.Hash.Hmac
import CertAuthority.Rsa.Key

/-!
# RSA signatures

A digest is wrapped in a header that names the hash, filled up to the size of
the modulus, and raised to the private exponent.  `sign?` works modulo the two
factors and checks its result with the public exponent before returning it;
`verify` raises a signature to the public exponent and compares.
-/

namespace CertAuthority.Rsa

/-- What precedes a digest: the algorithm and the headers of the enclosing elements. -/
def digestHeader : Hash.Algorithm → Octets
  | .sha224 => [0x30, 0x2d, 0x30, 0x0d, 0x06, 0x09, 0x60, 0x86, 0x48, 0x01, 0x65, 0x03, 0x04,
      0x02, 0x04, 0x05, 0x00, 0x04, 0x1c]
  | .sha256 => [0x30, 0x31, 0x30, 0x0d, 0x06, 0x09, 0x60, 0x86, 0x48, 0x01, 0x65, 0x03, 0x04,
      0x02, 0x01, 0x05, 0x00, 0x04, 0x20]
  | .sha384 => [0x30, 0x41, 0x30, 0x0d, 0x06, 0x09, 0x60, 0x86, 0x48, 0x01, 0x65, 0x03, 0x04,
      0x02, 0x02, 0x05, 0x00, 0x04, 0x30]
  | .sha512 => [0x30, 0x51, 0x30, 0x0d, 0x06, 0x09, 0x60, 0x86, 0x48, 0x01, 0x65, 0x03, 0x04,
      0x02, 0x03, 0x05, 0x00, 0x04, 0x40]

/-- The digest of a message filled up to `size` octets, if at least eight are left to fill. -/
def padded? (hash : Hash.Algorithm) (size : Nat) (message : Octets) : Option Octets :=
  let digest := digestHeader hash ++ hash.digest message
  if size < digest.length + 11 then none
  else some (0x00 :: 0x01 :: (List.replicate (size - digest.length - 3) 0xff ++ 0x00 :: digest))

namespace PrivateKey

/-- A power with the private exponent, from its residues for the two factors if they combine. -/
def power (key : PrivateKey) (value : Nat) : Nat :=
  match key.coefficient? with
  | none => Modular.pow value key.privateExponent key.publicKey.modulus
  | some coefficient =>
      let p := key.firstFactor
      let q := key.secondFactor
      let first := Modular.pow value key.firstExponent p
      let second := Modular.pow value key.secondExponent q
      second + q * (Modular.sub p first (second % p) * coefficient % p)

/-- The signature of a message, if it fits and the public exponent undoes it. -/
def sign? (key : PrivateKey) (hash : Hash.Algorithm) (message : Octets) : Option Octets := do
  let size := key.publicKey.size
  let value := Octets.toNat (← padded? hash size message)
  let signature := key.power value
  if Modular.pow signature key.publicKey.exponent key.publicKey.modulus = value then
    some (Octets.ofNatPadded size signature)
  else none

end PrivateKey

namespace PublicKey

/-- Whether octets are the signature of a message. -/
def verify (key : PublicKey) (hash : Hash.Algorithm) (message signature : Octets) : Bool :=
  let value := Octets.toNat signature
  signature.length == key.size && value < key.modulus &&
    padded? hash key.size message ==
      some (Octets.ofNatPadded key.size (Modular.pow value key.exponent key.modulus))

end PublicKey

end CertAuthority.Rsa
