import CertAuthority.Curve.Nist

/-!
# Elliptic-curve signatures

A signature of a digest is a pair of scalars computed from the private scalar
and a secret nonce.  `Ecdsa.nonce?` derives the nonce from the private scalar
and the digest, so that signing needs no randomness; `sign?` takes any nonce.
`verify` checks a pair against the public point.
-/

namespace CertAuthority.Ecdsa

open Curve (Point Jacobian)

/-- A pair of scalars that signs a digest. -/
structure Signature where
  r : Nat
  s : Nat
deriving DecidableEq

/-- Digest octets fitted to the field width: the leading ones, or zeros in front. -/
def fitDigest (curve : NistCurve) (digest : Octets) : Octets :=
  Octets.padLeft curve.params.width (digest.take curve.params.width)

/-- The scalar that a digest stands for. -/
def digestScalar (curve : NistCurve) (digest : Octets) : Nat :=
  Octets.toNat (fitDigest curve digest) % curve.params.order

/-- The state of the generator of nonces: a key and a chaining value. -/
structure NonceState where
  key : Octets
  value : Octets

namespace NonceState

/-- Absorbs data under a separator octet. -/
def absorb (hash : Hash.Algorithm) (separator : UInt8) (data : Octets) (state : NonceState) :
    NonceState :=
  let key := hash.hmac state.key (state.value ++ separator :: data)
  ⟨key, hash.hmac key state.value⟩

/-- The state seeded with the private scalar and the digest. -/
def seed (hash : Hash.Algorithm) (data : Octets) : NonceState :=
  let start : NonceState := ⟨List.replicate hash.size 0x00, List.replicate hash.size 0x01⟩
  (start.absorb hash 0x00 data).absorb hash 0x01 data

/-- Chaining values one after the other, until `blocks` of them are written. -/
def squeeze (hash : Hash.Algorithm) : (blocks : Nat) → NonceState → Octets × NonceState
  | 0, state => ([], state)
  | blocks + 1, state =>
      let next : NonceState := ⟨state.key, hash.hmac state.key state.value⟩
      let (rest, last) := squeeze hash blocks next
      (next.value ++ rest, last)

end NonceState

/-- Draws candidates until one is a scalar; `attempts` bounds how many are drawn. -/
def nonceFrom? (curve : NistCurve) : (attempts : Nat) → NonceState → Option (NistCurve.Scalar curve)
  | 0, _ => none
  | attempts + 1, state =>
      let hash := curve.nonceHash
      let width := curve.params.width
      let (octets, next) := state.squeeze hash ((width + hash.size - 1) / hash.size)
      match NistCurve.Scalar.ofNat? curve (Octets.toNat (octets.take width)) with
      | some scalar => some scalar
      | none => nonceFrom? curve attempts (next.absorb hash 0x00 [])

/-- The nonce of a private scalar and a digest. -/
def nonce? (curve : NistCurve) (scalar : NistCurve.Scalar curve) (digest : Octets) :
    Option (NistCurve.Scalar curve) :=
  let data := curve.coordinate scalar.val ++ curve.coordinate (digestScalar curve digest)
  nonceFrom? curve 128 (NonceState.seed curve.nonceHash data)

/-- The signature of a digest with a given nonce, unless a part of it is zero. -/
def sign? (curve : NistCurve) (scalar nonce : NistCurve.Scalar curve) (digest : Octets) :
    Option Signature :=
  let order := curve.params.order
  match nonce.publicPoint with
  | .infinity => none
  | .affine x _ =>
      let r := x % order
      let s := Modular.primeInverse nonce.val order *
        ((digestScalar curve digest + r * scalar.val) % order) % order
      if r = 0 ∨ s = 0 then none else some ⟨r, s⟩

/-- Whether a signature of a digest was made with the private scalar of a public point. -/
def verify (curve : NistCurve) (publicPoint : Point) (digest : Octets) (signature : Signature) :
    Bool :=
  let params := curve.params
  let inverse := Modular.primeInverse signature.s params.order
  let left := params.scale (digestScalar curve digest * inverse % params.order) params.generator
  let right := params.scale (signature.r * inverse % params.order) (Jacobian.ofPoint publicPoint)
  match params.toPoint (params.add left right) with
  | .infinity => false
  | .affine x _ => x % params.order == signature.r

end CertAuthority.Ecdsa
