import CertAuthority.Proofs.Curve.Group
import CertAuthority.Proofs.Curve.Primes

/-!
# The generators of the supported curves

The distinguished point of each curve is an element of its group, and its order
is the prime that the curve states.  Multiples of it are therefore equal exactly
if their scalars are equal modulo that prime, and the public point of a private
scalar is never the point at infinity.
-/

namespace CertAuthority.NistCurve

variable (curve : NistCurve)

/-- The group of the points of a curve. -/
abbrev Group : Type :=
  curve.params.overResidues.toAffine.Point

/-- What a computation can check of the parameters of a curve. -/
structure IsUsable : Prop where
  two_lt_field : 2 < curve.params.field
  two_lt_order : 2 < curve.params.order
  field_le_pow_width : curve.params.field ≤ 256 ^ curve.params.width
  order_le_pow_width : curve.params.order ≤ 256 ^ curve.params.width
  generatorX_lt_field : curve.params.generatorX < curve.params.field
  generatorY_lt_field : curve.params.generatorY < curve.params.field
  contains_generator :
    curve.params.contains curve.params.generatorX curve.params.generatorY = true
  generator_not_double_zero : ¬ curve.params.field ∣ 2 * curve.params.generatorY
  scale_order : (curve.params.scale curve.params.order curve.params.generator).z = 0

theorem isUsable : curve.IsUsable := by
  cases curve <;> constructor <;> decide +kernel

theorem nonsingular_generator : curve.params.overResidues.toAffine.Nonsingular
    curve.params.generatorX curve.params.generatorY := by
  have usable := curve.isUsable
  have equation := (Curve.contains_iff _ _).mp usable.contains_generator
  have twice := usable.generator_not_double_zero
  rw [← ZMod.natCast_eq_zero_iff, Nat.cast_mul, Nat.cast_ofNat] at twice
  refine (WeierstrassCurve.Affine.nonsingular_iff' _ _).mpr ⟨equation, Or.inr ?_⟩
  simpa [Curve.overResidues] using twice

/-- The distinguished point as an element of the group. -/
def base : curve.Group :=
  .some curve.params.generatorX curve.params.generatorY curve.nonsingular_generator

theorem base_ne_zero : curve.base ≠ 0 :=
  WeierstrassCurve.Affine.Point.some_ne_zero _

theorem affinePoint_base : curve.params.affinePoint curve.base =
    .affine curve.params.generatorX curve.params.generatorY := by
  have x := curve.isUsable.generatorX_lt_field
  have y := curve.isUsable.generatorY_lt_field
  simp [base, Curve.affinePoint, ZMod.val_natCast, Nat.mod_eq_of_lt x, Nat.mod_eq_of_lt y]

theorem represents_generator : curve.params.Represents curve.params.generator curve.base := by
  have point := Curve.represents_ofPoint curve.base
  rwa [affinePoint_base] at point

theorem order_nsmul_base : curve.params.order • curve.base = 0 :=
  (curve.represents_generator.scale curve.params.order).eq_zero curve.isUsable.scale_order

theorem addOrderOf_base : addOrderOf curve.base = curve.params.order :=
  addOrderOf_eq_prime curve.order_nsmul_base curve.base_ne_zero

theorem nsmul_base_eq_zero_iff (scalar : Nat) :
    scalar • curve.base = 0 ↔ curve.params.order ∣ scalar := by
  rw [← addOrderOf_dvd_iff_nsmul_eq_zero, addOrderOf_base]

theorem nsmul_base_eq_iff (left right : Nat) :
    left • curve.base = right • curve.base ↔ left ≡ right [MOD curve.params.order] := by
  rw [nsmul_eq_nsmul_iff_modEq, addOrderOf_base]

/-! ## Public points -/

namespace Scalar

variable {curve} (scalar : Scalar curve)

theorem publicPoint_eq :
    scalar.publicPoint = curve.params.affinePoint (scalar.val • curve.base) :=
  (curve.represents_generator.scale scalar.val).toPoint curve.isUsable.two_lt_field

theorem nsmul_base_ne_zero : scalar.val • curve.base ≠ 0 := by
  rw [ne_eq, nsmul_base_eq_zero_iff]
  exact Nat.not_dvd_of_pos_of_lt scalar.property.1 scalar.property.2

/-- The public point of a private scalar is finite. -/
theorem publicPoint_ne_infinity : scalar.publicPoint ≠ .infinity := by
  rw [publicPoint_eq]
  exact Curve.affinePoint_ne_infinity scalar.nsmul_base_ne_zero

end Scalar

end CertAuthority.NistCurve
