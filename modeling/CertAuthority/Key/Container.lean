import CertAuthority.Key.Pair

/-!
# Encodings of private keys

Private keys are stored in three encodings.  Two hold the key of one algorithm:
the numbers of an RSA key, or the scalar of an elliptic-curve key with its
public point.  The third wraps either of them together with the identifier of
its algorithm.

An elliptic-curve key may name its curve and give its public point.  The point
has to be the one of the scalar.  The name of the curve is read but not used:
without the wrapper, a key is on the first curve that its scalar fits.
-/

namespace CertAuthority

open Der (Any BitString Decoder Oid)
open X509 (AlgorithmIdentifier)

/-- The identifier that the parameters of an algorithm are, if they are one. -/
def X509.AlgorithmIdentifier.parametersOid? (identifier : AlgorithmIdentifier) : Option Oid :=
  match identifier.parameters with
  | some ⟨tag, content⟩ => if tag = Der.Tag.objectIdentifier then Oid.ofContent? content else none
  | none => none

/-- An elliptic-curve private key as it is written. -/
structure EllipticCurveKey where
  scalar : Octets
  curve : Option Oid
  publicPoint : Option Octets
deriving DecidableEq

namespace EllipticCurveKey

/-- The version of the format. -/
def version : Nat := 1

/-- Octets of the shortest scalar that is read. -/
def minScalarSize : Nat := 24

/-- The key as octets, without the name of the curve. -/
def encode (key : EllipticCurveKey) : Octets :=
  Der.encode Der.Tag.sequence
    (Der.encodeUnsigned version ++ Der.encodeOctetString key.scalar ++
      (key.publicPoint.map fun point =>
        Der.encode (Der.Tag.constructedField 1) (BitString.ofOctets point).encode).getD [])

/-- Reads a bit string without unused bits. -/
def decodeWhole : Decoder Octets := fun octets => do
  let (bits, rest) ← BitString.decode octets
  let whole ← bits.wholeOctets?
  return (whole, rest)

/-- Reads version, scalar and the optional fields. -/
def decodeContent : Decoder EllipticCurveKey := fun octets => do
  let (found, rest) ← Der.decodeUnsigned octets
  if found ≠ version then none
  else
    let (scalar, rest) ← Der.decodeOctetString rest
    let (curve, rest) ← Der.decodeWrapped 0 Oid.decode rest
    let (publicPoint, rest) ← Der.decodeWrapped 1 decodeWhole rest
    return (⟨scalar, curve, publicPoint⟩, rest)

/-- Reads a key that fills the octets. -/
def decode? (octets : Octets) : Option EllipticCurveKey :=
  Der.complete (Der.decodeNested Der.Tag.sequence decodeContent) octets

/-- The written key of a scalar, with its public point. -/
def ofScalar {curve : NistCurve} (scalar : NistCurve.Scalar curve) : EllipticCurveKey :=
  ⟨curve.coordinate scalar.val, none, some (curve.encodePoint scalar.publicPoint)⟩

/-- The scalar on a curve, if its size and value fit and the public point belongs to it. -/
def scalarOn? (key : EllipticCurveKey) (curve : NistCurve) : Option (NistCurve.Scalar curve) := do
  let size := key.scalar.length
  if size < minScalarSize ∨ curve.params.width < size then none
  else
    let scalar ← NistCurve.Scalar.ofNat? curve (Octets.toNat key.scalar)
    match key.publicPoint with
    | none => some scalar
    | some point =>
        if (curve.pointEncodings scalar.publicPoint).contains point then some scalar else none

/-- The key pair on a curve. -/
def pairOn? (key : EllipticCurveKey) (curve : NistCurve) : Option KeyPair :=
  (key.scalarOn? curve).map (.ecdsa curve)

end EllipticCurveKey

/-- A private key of any algorithm as it is written. -/
structure WrappedKey where
  algorithm : AlgorithmIdentifier
  key : Octets
deriving DecidableEq

namespace WrappedKey

/-- Whether octets are fields of any number, each around one element. -/
def areFields (octets : Octets) : Bool :=
  (Der.decodeAll (fun rest => do
    let ((tag, content), rest) ← Der.decodeElement rest
    let number ← Der.Tag.contextNumber? tag.octet
    if tag.octet &&& 0x20 = 0 then none
    else
      let any ← Der.complete Any.decode content
      return ((number, any), rest)) octets).isSome

/-- The field of the public key. -/
def decodePublicKey : Decoder (Option Octets) :=
  Der.decodeField 1 fun octets => do
    let (bits, rest) ← BitString.decodeAs (Der.Tag.field 1) octets
    let whole ← bits.wholeOctets?
    return (whole, rest)

/--
Reads version, algorithm and key.  The public key is given exactly in the
second version, and is not compared; further fields are passed over.
-/
def decodeContent : Decoder WrappedKey := fun octets => do
  let (version, rest) ← Der.decodeUnsigned octets
  if 1 < version then none
  else
    let (algorithm, rest) ← AlgorithmIdentifier.decode rest
    let (key, rest) ← Der.decodeOctetString rest
    let (publicKey, rest) ← decodePublicKey rest
    if (version == 1) == publicKey.isSome && areFields rest then return (⟨algorithm, key⟩, [])
    else none

/-- Reads a key that fills the octets. -/
def decode? (octets : Octets) : Option WrappedKey :=
  Der.complete (Der.decodeNested Der.Tag.sequence decodeContent) octets

/-- The key pair, if the algorithm is RSA. -/
def rsaPair? (wrapped : WrappedKey) : Option KeyPair :=
  if wrapped.algorithm = rsaKeyIdentifier then
    (Rsa.PrivateKey.decode? wrapped.key).map .rsa
  else none

/-- The key pair, if the parameters of the algorithm name a curve. -/
def ellipticCurvePair? (wrapped : WrappedKey) (curve : NistCurve) : Option KeyPair := do
  if wrapped.algorithm.oid = ellipticCurveOid ∧
      wrapped.algorithm.parametersOid? = some curve.oid then
    (← EllipticCurveKey.decode? wrapped.key).pairOn? curve
  else none

/-- The key pair of a supported algorithm. -/
def pair? (wrapped : WrappedKey) : Option KeyPair :=
  wrapped.rsaPair? <|> NistCurve.all.findSome? wrapped.ellipticCurvePair?

end WrappedKey

namespace KeyContainer

/-- The key pair in octets of an encoding. -/
def pair? : KeyContainer → Octets → Option KeyPair
  | pkcs8, octets => (WrappedKey.decode? octets).bind WrappedKey.pair?
  | pkcs1, octets => (Rsa.PrivateKey.decode? octets).map .rsa
  | sec1, octets => do
      let key ← EllipticCurveKey.decode? octets
      NistCurve.all.findSome? key.pairOn?

/-- The encodings in the order in which they are tried. -/
def all : List KeyContainer := [pkcs8, pkcs1, sec1]

/-- The first encoding in which octets are a key pair. -/
def find? (octets : Octets) : Option (KeyContainer × KeyPair) :=
  all.findSome? fun container => (container.pair? octets).map (container, ·)

end KeyContainer

end CertAuthority
