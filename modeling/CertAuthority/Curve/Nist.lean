import CertAuthority.Curve.Basic
import CertAuthority.Hash.Hmac

/-!
# The supported curves

The four prime-field curves keys may be on.  Each names its parameters, the
width of a written coordinate and the digest that its deterministic nonces use.
-/

namespace CertAuthority

/-- The curves keys may be on. -/
inductive NistCurve where
  | p224
  | p256
  | p384
  | p521
deriving DecidableEq

namespace NistCurve

/-- The parameters of a curve. -/
def params : NistCurve → Curve
  | p224 =>
      { field := 0xffffffffffffffffffffffffffffffff000000000000000000000001
        a := 0xfffffffffffffffffffffffffffffffefffffffffffffffffffffffe
        b := 0xb4050a850c04b3abf54132565044b0b7d7bfd8ba270b39432355ffb4
        order := 0xffffffffffffffffffffffffffff16a2e0b8f03e13dd29455c5c2a3d
        generatorX := 0xb70e0cbd6bb4bf7f321390b94a03c1d356c21122343280d6115c1d21
        generatorY := 0xbd376388b5f723fb4c22dfe6cd4375a05a07476444d5819985007e34
        nonSquare := 11
        width := 28 }
  | p256 =>
      { field := 0xffffffff00000001000000000000000000000000ffffffffffffffffffffffff
        a := 0xffffffff00000001000000000000000000000000fffffffffffffffffffffffc
        b := 0x5ac635d8aa3a93e7b3ebbd55769886bc651d06b0cc53b0f63bce3c3e27d2604b
        order := 0xffffffff00000000ffffffffffffffffbce6faada7179e84f3b9cac2fc632551
        generatorX := 0x6b17d1f2e12c4247f8bce6e563a440f277037d812deb33a0f4a13945d898c296
        generatorY := 0x4fe342e2fe1a7f9b8ee7eb4a7c0f9e162bce33576b315ececbb6406837bf51f5
        nonSquare := 3
        width := 32 }
  | p384 =>
      { field := 0xfffffffffffffffffffffffffffffffffffffffffffffffffffffffffffffffeffffffff0000000000000000ffffffff
        a := 0xfffffffffffffffffffffffffffffffffffffffffffffffffffffffffffffffeffffffff0000000000000000fffffffc
        b := 0xb3312fa7e23ee7e4988e056be3f82d19181d9c6efe8141120314088f5013875ac656398d8a2ed19d2a85c8edd3ec2aef
        order := 0xffffffffffffffffffffffffffffffffffffffffffffffffc7634d81f4372ddf581a0db248b0a77aecec196accc52973
        generatorX := 0xaa87ca22be8b05378eb1c71ef320ad746e1d3b628ba79b9859f741e082542a385502f25dbf55296c3a545e3872760ab7
        generatorY := 0x3617de4a96262c6f5d9e98bf9292dc29f8f41dbd289a147ce9da3113b5f0b8c00a60b1ce1d7e819d7a431d7c90ea0e5f
        nonSquare := 19
        width := 48 }
  | p521 =>
      { field := Nat.pow 2 521 - 1
        a := Nat.pow 2 521 - 4
        b := 0x0051953eb9618e1c9a1f929a21a0b68540eea2da725b99b315f3b8b489918ef109e156193951ec7e937b1652c0bd3bb1bf073573df883d2c34f1ef451fd46b503f00
        order := 0x01fffffffffffffffffffffffffffffffffffffffffffffffffffffffffffffffffa51868783bf2f966b7fcc0148f709a5d03bb5c9b8899c47aebb6fb71e91386409
        generatorX := 0x00c6858e06b70404e9cd9e3ecb662395b4429c648139053fb521f828af606b4d3dbaa14b5e77efe75928fe1dc127a2ffa8de3348b3c1856a429bf97e7e31c2e5bd66
        generatorY := 0x011839296a789a3bc0045c8a5fb42c7d1bd998f54449579b446817afbd17273e662c97ee72995ef42640c550b9013fad0761353c7086a272c24088be94769fd16650
        nonSquare := 3
        width := 66 }

/-- The digest behind the deterministic nonces of a curve, of about the order's size. -/
def nonceHash : NistCurve → Hash.Algorithm
  | p224 => .sha224
  | p256 => .sha256
  | p384 => .sha384
  | p521 => .sha512

/-- A coordinate or scalar as octets of the width of the curve. -/
def coordinate (curve : NistCurve) (value : Nat) : Octets :=
  Octets.ofNatPadded curve.params.width value

/-- A private scalar: a positive number below the order of the curve. -/
abbrev Scalar (curve : NistCurve) :=
  { value : Nat // 0 < value ∧ value < curve.params.order }

namespace Scalar

/-- The scalar of a number, if it is in range. -/
def ofNat? (curve : NistCurve) (value : Nat) : Option (Scalar curve) :=
  if h : 0 < value ∧ value < curve.params.order then some ⟨value, h⟩ else none

/-- The public point of a private scalar. -/
def publicPoint {curve : NistCurve} (scalar : Scalar curve) : Curve.Point :=
  curve.params.publicPoint scalar.val

end Scalar

end NistCurve

end CertAuthority
