import CertAuthority.Curve.PointEncoding
import CertAuthority.Ecdsa.Encoding
import CertAuthority.Operation
import CertAuthority.Rsa.Signature
import CertAuthority.X509.PublicKeyInfo

/-!
# Key pairs

A key pair is an RSA private key or a private scalar of a curve.  The public key
that certificates carry follows from it, and so does the signature algorithm that
it signs with: it refuses every other on a curve, and every one that is not for
RSA as an RSA key.

Algorithm and size of a key are kept apart from its key pair.  `KeyPair.Agrees`
says which are those of a pair; for these the policy of the algorithm gives the
signature algorithm of the pair (`KeyPair.Agrees.signatureAlgorithm?_eq`).
-/

namespace CertAuthority

open Der (Any BitString Oid)
open X509 (AlgorithmIdentifier PublicKeyInfo)

namespace NistCurve

/-- The curves in the order in which they are tried. -/
def all : List NistCurve := [p256, p384, p521, p224]

/-- The name of a curve. -/
def name : NistCurve → String
  | p224 => "P-224"
  | p256 => "P-256"
  | p384 => "P-384"
  | p521 => "P-521"

/-- The identifiers 1.3.132.0.33 to 35 and 1.2.840.10045.3.1.7. -/
def oid : NistCurve → Oid
  | p224 => ⟨[0x2b, 0x81, 0x04, 0x00, 0x21], by decide⟩
  | p256 => ⟨[0x2a, 0x86, 0x48, 0xce, 0x3d, 0x03, 0x01, 0x07], by decide⟩
  | p384 => ⟨[0x2b, 0x81, 0x04, 0x00, 0x22], by decide⟩
  | p521 => ⟨[0x2b, 0x81, 0x04, 0x00, 0x23], by decide⟩

/-- The signature algorithm of keys on a curve. -/
def signatureAlgorithm : NistCurve → SignatureAlgorithm
  | p224 => .ecdsaSha256
  | p256 => .ecdsaSha256
  | p384 => .ecdsaSha384
  | p521 => .ecdsaSha512

end NistCurve

/-- The identifier 1.2.840.10045.2.1 of elliptic-curve keys. -/
def ellipticCurveOid : Oid := ⟨[0x2a, 0x86, 0x48, 0xce, 0x3d, 0x02, 0x01], by decide⟩

/-- The identifier 1.2.840.113549.1.1.1 of RSA keys. -/
def rsaOid : Oid := ⟨[0x2a, 0x86, 0x48, 0x86, 0xf7, 0x0d, 0x01, 0x01, 0x01], by decide⟩

/-- The algorithm of keys on a curve, whose parameters name the curve. -/
def NistCurve.keyIdentifier (curve : NistCurve) : AlgorithmIdentifier :=
  ⟨ellipticCurveOid, some ⟨Der.Tag.objectIdentifier, curve.oid.content⟩⟩

/-- The algorithm of RSA keys. -/
def rsaKeyIdentifier : AlgorithmIdentifier :=
  ⟨rsaOid, some Any.null⟩

/-- A private key with the public key that belongs to it. -/
inductive KeyPair where
  | rsa (key : Rsa.PrivateKey)
  | ecdsa (curve : NistCurve) (scalar : NistCurve.Scalar curve)
deriving DecidableEq

namespace KeyPair

/--
Whether an algorithm and a size are those of a key pair: the number of bits of the
modulus, or the size that goes with the curve.  The smallest curve has no size of
its own.
-/
def Agrees (pair : KeyPair) (algorithm : KeyAlgorithm) (size : Nat) : Prop :=
  match pair with
  | rsa key =>
      algorithm = .rsa ∧ Nat.pow 2 (size - 1) ≤ key.publicKey.modulus ∧
        key.publicKey.modulus < Nat.pow 2 size
  | ecdsa .p224 _ => algorithm = .ecdsa ∧ size = 256
  | ecdsa .p256 _ => algorithm = .ecdsa ∧ size = 256
  | ecdsa .p384 _ => algorithm = .ecdsa ∧ size = 384
  | ecdsa .p521 _ => algorithm = .ecdsa ∧ size = 521

/-- There are no two algorithms and sizes of one key pair. -/
theorem Agrees.unique {pair : KeyPair} {algorithm other : KeyAlgorithm} {size otherSize : Nat}
    (agrees : pair.Agrees algorithm size) (otherAgrees : pair.Agrees other otherSize) :
    algorithm = other ∧ size = otherSize := by
  cases pair with
  | rsa key =>
      rcases agrees with ⟨rfl, atLeast, below⟩
      rcases otherAgrees with ⟨rfl, otherAtLeast, otherBelow⟩
      refine ⟨rfl, ?_⟩
      rw [← Rsa.PublicKey.bitLength_eq_of_bounds atLeast below,
        Rsa.PublicKey.bitLength_eq_of_bounds otherAtLeast otherBelow]
  | ecdsa curve scalar =>
      cases curve <;> exact ⟨agrees.1.trans otherAgrees.1.symm, agrees.2.trans otherAgrees.2.symm⟩

/-- The kind of a key pair in words. -/
def kindName : KeyPair → String
  | rsa _ => "RSA"
  | ecdsa curve _ => curve.name

/-- The identifier of the algorithm of public keys. -/
def publicKeyOid : KeyPair → Oid
  | rsa _ => rsaOid
  | ecdsa _ _ => ellipticCurveOid

/-- The public key as certificates carry it. -/
def publicKeyInfo : KeyPair → PublicKeyInfo
  | rsa key => ⟨rsaKeyIdentifier, BitString.ofOctets key.publicKey.encode⟩
  | ecdsa curve scalar =>
      ⟨curve.keyIdentifier, BitString.ofOctets (curve.encodePoint scalar.publicPoint)⟩

/-- The signature algorithm of RSA keys with a number of bits. -/
def rsaSignatureAlgorithm (bits : Nat) : SignatureAlgorithm :=
  if 4096 ≤ bits then .rsaSha512 else if 3072 ≤ bits then .rsaSha384 else .rsaSha256

/-- The signature algorithm a key pair signs with. -/
def signatureAlgorithm : KeyPair → SignatureAlgorithm
  | rsa key => rsaSignatureAlgorithm key.publicKey.bitLength
  | ecdsa curve _ => curve.signatureAlgorithm

/-- The policy of an algorithm gives the signature algorithm of the pairs of a size. -/
theorem Agrees.signatureAlgorithm?_eq {pair : KeyPair} {algorithm : KeyAlgorithm} {size : Nat}
    (agrees : pair.Agrees algorithm size) :
    algorithm.signatureAlgorithm? size = some pair.signatureAlgorithm := by
  cases pair with
  | rsa key =>
      rcases agrees with ⟨rfl, atLeast, below⟩
      rw [signatureAlgorithm, Rsa.PublicKey.bitLength_eq_of_bounds atLeast below,
        KeyAlgorithm.signatureAlgorithm?, rsaSignatureAlgorithm]
      split
      · rfl
      · split <;> rfl
  | ecdsa curve scalar =>
      cases curve <;> (rcases agrees with ⟨rfl, rfl⟩; rfl)

/-- Octets of randomness behind a scalar, enough for the reduction to leave no trace. -/
def scalarEntropy (curve : NistCurve) : Nat :=
  curve.params.width + 16

/-- The scalar that random octets stand for. -/
def scalarOfEntropy (curve : NistCurve) (octets : Octets) : NistCurve.Scalar curve :=
  ⟨Octets.toNat octets % (curve.params.order - 1) + 1, by
    have large : 1 < curve.params.order := by cases curve <;> decide
    have small := Nat.mod_lt (Octets.toNat octets) (Nat.sub_pos_of_lt large)
    omega⟩

/-- The nonce of a signature: derived from key and digest, on the largest curve drawn at random. -/
def signatureNonce (curve : NistCurve) (scalar : NistCurve.Scalar curve) (digest : Octets) :
    Operation (NistCurve.Scalar curve) :=
  if curve = .p521 then do
    return scalarOfEntropy curve (← Operation.draw (scalarEntropy curve))
  else Operation.ofOption .signingFailed (Ecdsa.nonce? curve scalar digest)

/-- Signs data with an algorithm, which has to be one the key pair is made for. -/
def signWith (pair : KeyPair) (algorithm : SignatureAlgorithm) (data : Octets) :
    Operation Octets :=
  match pair with
  | rsa key =>
      if algorithm.isRsa then
        Operation.ofOption .signingFailed (key.sign? algorithm.hash data)
      else throw (.wrongKeyFor algorithm)
  | ecdsa curve scalar =>
      if algorithm = curve.signatureAlgorithm then do
        let digest := algorithm.hash.digest data
        let nonce ← signatureNonce curve scalar digest
        let signature ← Operation.ofOption .signingFailed (Ecdsa.sign? curve scalar nonce digest)
        return signature.encode
      else throw (.wrongKeyFor algorithm)

end KeyPair

end CertAuthority
