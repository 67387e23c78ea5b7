import CertAuthority.Hash.Hmac
import CertAuthority.X509.AlgorithmIdentifier

/-!
# Signature algorithms

A signature algorithm joins a digest with a kind of key.  The curve of an
elliptic-curve key is not part of it.
-/

namespace CertAuthority

/-- The supported signature algorithms. -/
inductive SignatureAlgorithm where
  | rsaSha256
  | rsaSha384
  | rsaSha512
  | ecdsaSha256
  | ecdsaSha384
  | ecdsaSha512
deriving DecidableEq

namespace SignatureAlgorithm

open Der (Oid)

/-- Every supported algorithm. -/
def all : List SignatureAlgorithm :=
  [rsaSha256, rsaSha384, rsaSha512, ecdsaSha256, ecdsaSha384, ecdsaSha512]

/-- The name of an algorithm. -/
def name : SignatureAlgorithm → String
  | rsaSha256 => "Sha256WithRSA"
  | rsaSha384 => "Sha384WithRSA"
  | rsaSha512 => "Sha512WithRSA"
  | ecdsaSha256 => "Sha256WithECDSA"
  | ecdsaSha384 => "Sha384WithECDSA"
  | ecdsaSha512 => "Sha512WithECDSA"

/-- The identifiers 1.2.840.113549.1.1.11 to 13 and 1.2.840.10045.4.3.2 to 4. -/
def oid : SignatureAlgorithm → Oid
  | rsaSha256 => ⟨[0x2a, 0x86, 0x48, 0x86, 0xf7, 0x0d, 0x01, 0x01, 0x0b], by decide⟩
  | rsaSha384 => ⟨[0x2a, 0x86, 0x48, 0x86, 0xf7, 0x0d, 0x01, 0x01, 0x0c], by decide⟩
  | rsaSha512 => ⟨[0x2a, 0x86, 0x48, 0x86, 0xf7, 0x0d, 0x01, 0x01, 0x0d], by decide⟩
  | ecdsaSha256 => ⟨[0x2a, 0x86, 0x48, 0xce, 0x3d, 0x04, 0x03, 0x02], by decide⟩
  | ecdsaSha384 => ⟨[0x2a, 0x86, 0x48, 0xce, 0x3d, 0x04, 0x03, 0x03], by decide⟩
  | ecdsaSha512 => ⟨[0x2a, 0x86, 0x48, 0xce, 0x3d, 0x04, 0x03, 0x04], by decide⟩

/-- The algorithm with an identifier, if it is supported. -/
def ofOid? (oid : Oid) : Option SignatureAlgorithm :=
  all.find? (·.oid = oid)

/-- The digest that is signed. -/
def hash : SignatureAlgorithm → Hash.Algorithm
  | rsaSha256 | ecdsaSha256 => .sha256
  | rsaSha384 | ecdsaSha384 => .sha384
  | rsaSha512 | ecdsaSha512 => .sha512

/-- Whether the key is an RSA key. -/
def isRsa : SignatureAlgorithm → Bool
  | rsaSha256 | rsaSha384 | rsaSha512 => true
  | ecdsaSha256 | ecdsaSha384 | ecdsaSha512 => false

/-- The identifier with its parameters: a null element for RSA, none for elliptic curves. -/
def identifier (algorithm : SignatureAlgorithm) : X509.AlgorithmIdentifier :=
  ⟨algorithm.oid, if algorithm.isRsa then some Der.Any.null else none⟩

end SignatureAlgorithm

end CertAuthority
