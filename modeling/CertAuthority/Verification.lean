import CertAuthority.Extension.Basic
import CertAuthority.Key.Container

/-!
# Checking signatures of certificates

A signature covers the octets of the signed part, written again from what was
read.  Its algorithm tells the digest and the kind of key; the curve follows
from the digest, except that the smallest curve is used if the key of the
issuer is declared to be on it.
-/

namespace CertAuthority

open X509 (Certificate PublicKeyInfo)

/-- The longest modulus, in bits, of keys that signatures are checked with. -/
def maxCheckedRsaBits : Nat := 4096

/-- Checks an RSA signature. -/
def verifyRsa (hash : Hash.Algorithm) (publicKey message signature : Octets) :
    Except Error Unit := do
  let key ← orError .malformedPublicKey (Rsa.PublicKey.decode? publicKey)
  if maxCheckedRsaBits < key.bitLength then .error .malformedPublicKey
  else if key.verify hash message signature then .ok ()
  else .error .invalidSignature

/-- Checks an elliptic-curve signature. -/
def verifyEcdsa (curve : NistCurve) (hash : Hash.Algorithm) (publicKey message signature : Octets) :
    Except Error Unit := do
  let point ← orError .malformedPoint (curve.decodePoint? publicKey)
  let signature ← orError .invalidSignature (Ecdsa.Signature.decode? curve signature)
  if Ecdsa.verify curve point (hash.digest message) signature then .ok ()
  else .error .invalidSignature

/-- The curve of the keys that make signatures of an algorithm, given the declared identifier. -/
def verificationCurve (algorithm : SignatureAlgorithm) (declared : Option Der.Oid) : NistCurve :=
  match algorithm.hash with
  | .sha224 | .sha256 => if declared = some NistCurve.p224.oid then .p224 else .p256
  | .sha384 => .p384
  | .sha512 => .p521

/-- Checks a signature of a message with a public key from a certificate. -/
def verifySignature (algorithm : SignatureAlgorithm) (info : PublicKeyInfo)
    (message signature : Octets) : Except Error Unit :=
  let publicKey := info.key.octets
  if algorithm.isRsa then verifyRsa algorithm.hash publicKey message signature
  else
    verifyEcdsa (verificationCurve algorithm info.algorithm.parametersOid?) algorithm.hash
      publicKey message signature

namespace X509.Certificate

/-- The algorithm of the signature, if it is supported. -/
def knownAlgorithm? (certificate : Certificate) : Option SignatureAlgorithm :=
  SignatureAlgorithm.ofOid? certificate.signatureAlgorithm.oid

/-- Checks that the key in the certificate of an issuer signed a certificate. -/
def verifyIssuedBy (certificate issuer : Certificate) : Except Error Unit := do
  let algorithm ← orError (.unsupportedSignature certificate.signatureAlgorithm.oid)
    certificate.knownAlgorithm?
  verifySignature algorithm issuer.tbs.publicKey certificate.tbs.encode
    certificate.signature.octets

end X509.Certificate

end CertAuthority
