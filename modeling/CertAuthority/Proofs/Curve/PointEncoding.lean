import CertAuthority.Curve.PointEncoding
import CertAuthority.Proofs.Curve.Generator
import CertAuthority.Proofs.Octets

/-!
# Points read back

A finite point of a curve is read back from the form with both coordinates, and
its written forms tell by their length which curve they can be on.
-/

namespace CertAuthority.NistCurve

variable (curve : NistCurve)

@[simp]
theorem length_coordinate (value : Nat) :
    (curve.coordinate value).length = curve.params.width :=
  Octets.length_ofNatPadded _ _

theorem toNat_coordinate {value : Nat} (reduced : value < curve.params.field) :
    Octets.toNat (curve.coordinate value) = value :=
  Octets.toNat_ofNatPadded_of_lt (reduced.trans_le curve.isUsable.field_le_pow_width)

theorem length_encodePoint (x y : Nat) :
    (curve.encodePoint (.affine x y)).length = 2 * curve.params.width + 1 := by
  simp only [encodePoint, List.length_cons, List.length_append, length_coordinate]
  omega

theorem Scalar.length_encodePoint {curve : NistCurve} (scalar : Scalar curve) :
    (curve.encodePoint scalar.publicPoint).length = 2 * curve.params.width + 1 := by
  cases point : scalar.publicPoint with
  | infinity => exact absurd point scalar.publicPoint_ne_infinity
  | affine x y => exact curve.length_encodePoint x y

/-- The forms of a public point have lengths that depend on the curve only. -/
theorem Scalar.length_of_mem_pointEncodings {curve : NistCurve} {scalar : Scalar curve}
    {octets : Octets} (member : octets ∈ curve.pointEncodings scalar.publicPoint) :
    octets.length = 2 * curve.params.width + 1 ∨ octets.length = curve.params.width + 1 := by
  cases point : scalar.publicPoint with
  | infinity => exact absurd point scalar.publicPoint_ne_infinity
  | affine x y =>
      rw [point, pointEncodings] at member
      rcases List.mem_cons.mp member with rfl | member
      · exact Or.inl (curve.length_encodePoint x y)
      · rw [List.mem_singleton.mp member, List.length_cons, length_coordinate]
        exact Or.inr rfl

/-- The lengths of the forms of points on different curves are different. -/
theorem widths_apart {curve other : NistCurve} (different : curve ≠ other) :
    curve.params.width ≠ other.params.width ∧
      2 * curve.params.width ≠ other.params.width ∧
        curve.params.width ≠ 2 * other.params.width := by
  revert different
  cases curve <;> cases other <;> decide

theorem encodePoint_mem_pointEncodings (point : Curve.Point) :
    curve.encodePoint point ∈ curve.pointEncodings point := by
  cases point <;> exact List.mem_cons_self

/-- A finite point of the curve is read back. -/
theorem decodePoint?_encodePoint {point : curve.Group} (finite : point ≠ 0) :
    curve.decodePoint? (curve.encodePoint (curve.params.affinePoint point)) =
      some (curve.params.affinePoint point) := by
  cases point with
  | zero => exact absurd rfl finite
  | some x y nonsingular =>
      have positive : NeZero curve.params.field := ⟨curve.params_prime.1.ne_zero⟩
      have onCurve : curve.params.contains x.val y.val = true := by
        rw [Curve.contains_iff, ZMod.natCast_zmod_val, ZMod.natCast_zmod_val]
        exact nonsingular.1
      have coordinates : (curve.coordinate x.val ++ curve.coordinate y.val).length =
          2 * curve.params.width := by
        rw [List.length_append, length_coordinate, length_coordinate, Nat.two_mul]
      have first : (curve.coordinate x.val ++ curve.coordinate y.val).take curve.params.width =
          curve.coordinate x.val := List.take_left' (curve.length_coordinate x.val)
      have second : (curve.coordinate x.val ++ curve.coordinate y.val).drop curve.params.width =
          curve.coordinate y.val := List.drop_left' (curve.length_coordinate x.val)
      simp only [Curve.affinePoint, encodePoint, decodePoint?, if_true, coordinates, first, second,
        curve.toNat_coordinate (ZMod.val_lt x), curve.toNat_coordinate (ZMod.val_lt y),
        ZMod.val_lt x, ZMod.val_lt y, onCurve, and_self]

theorem Scalar.decodePoint?_publicPoint {curve : NistCurve} (scalar : Scalar curve) :
    curve.decodePoint? (curve.encodePoint scalar.publicPoint) = some scalar.publicPoint := by
  rw [scalar.publicPoint_eq]
  exact curve.decodePoint?_encodePoint scalar.nsmul_base_ne_zero

end CertAuthority.NistCurve
