import CertAuthority.Curve.Nist

/-!
# Points as octet strings

A point is written as one form octet and its coordinates: both of them
(`0x04`), the abscissa with the parity of the ordinate (`0x02`, `0x03`), or the
abscissa alone (`0x05`), which stands for the smaller of the two ordinates.
`encodePoint` writes both coordinates, `pointEncodings` lists the forms that
name one point alone, and `decodePoint?` reads every form, refusing what is not
on the curve.
-/

namespace CertAuthority.NistCurve

open Curve (Point)

/-- The form with both coordinates; infinity is a single zero octet. -/
def encodePoint (curve : NistCurve) : Point → Octets
  | .infinity => [0x00]
  | .affine x y => 0x04 :: (curve.coordinate x ++ curve.coordinate y)

/-- The forms that tell a point from its negative: with both coordinates, or with the parity. -/
def pointEncodings (curve : NistCurve) : Point → List Octets
  | .infinity => [[0x00]]
  | .affine x y =>
      [curve.encodePoint (.affine x y),
        (if y % 2 = 0 then 0x02 else 0x03) :: curve.coordinate x]

/-- The ordinate of an abscissa with the given parity, if there is one. -/
def ordinate? (curve : NistCurve) (x parity : Nat) : Option Nat := do
  let field := curve.params.field
  let root ← Modular.sqrt? curve.params.nonSquare (curve.params.rightSide x) field
  return if root % 2 = parity then root else Modular.sub field 0 root

/-- Reads a finite point in any of its forms. -/
def decodePoint? (curve : NistCurve) : Octets → Option Point
  | [] => none
  | form :: coordinates =>
      let field := curve.params.field
      let width := curve.params.width
      if form = 0x04 then
        let x := Octets.toNat (coordinates.take width)
        let y := Octets.toNat (coordinates.drop width)
        if coordinates.length = 2 * width ∧ x < field ∧ y < field ∧ curve.params.contains x y then
          some (.affine x y)
        else none
      else
        let x := Octets.toNat coordinates
        if coordinates.length ≠ width ∨ field ≤ x then none
        else if form = 0x02 then (curve.ordinate? x 0).map (.affine x)
        else if form = 0x03 then (curve.ordinate? x 1).map (.affine x)
        else if form = 0x05 then
          (curve.ordinate? x 1).map fun y => .affine x (min y (Modular.sub field 0 y))
        else none

end CertAuthority.NistCurve
