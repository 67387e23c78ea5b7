import CertAuthority.Curve.Basic
import CertAuthority.Proofs.Modular
import Mathlib.AlgebraicGeometry.EllipticCurve.Jacobian.Point

/-!
# The group of a curve

The triples that multiples are computed on stand for elements of the group of
the curve over the residues (`Represents`).  Doubling and adding triples doubles
and adds these elements, so that `scale` computes multiples in the group, and
what is known about groups is known about the points of a curve.

Some field is needed for there to be a group: the number of residues has to be
prime, and large enough for two and three not to vanish.
-/

namespace CertAuthority.Curve

open WeierstrassCurve.Jacobian

variable (curve : Curve)

/-- The equation of the curve over the residues. -/
def overResidues : WeierstrassCurve.Jacobian (ZMod curve.field) :=
  ⟨0, 0, 0, curve.a, curve.b⟩

/-- The coordinates of a triple as residues. -/
def residues (p : Jacobian) : Fin 3 → ZMod curve.field :=
  ![p.x, p.y, p.z]

/-- Whether the coordinates of a triple are below the size of the field. -/
structure IsReduced (p : Jacobian) : Prop where
  x_lt : p.x < curve.field
  y_lt : p.y < curve.field
  z_lt : p.z < curve.field

variable {curve} {p q : Jacobian}

theorem cast_eq_zero_iff {value : Nat} (reduced : value < curve.field) :
    (value : ZMod curve.field) = 0 ↔ value = 0 := by
  rw [ZMod.natCast_eq_zero_iff]
  constructor
  · intro divides
    exact Nat.eq_zero_of_dvd_of_lt divides reduced
  · rintro rfl
    exact dvd_zero _

/-- Abscissas are compared over a common denominator. -/
theorem abscissas_eq_iff :
    p.x * (q.z * q.z % curve.field) % curve.field = q.x * (p.z * p.z % curve.field) % curve.field ↔
      curve.residues p 0 * curve.residues q 2 ^ 2 =
        curve.residues q 0 * curve.residues p 2 ^ 2 := by
  rw [← ZMod.natCast_eq_natCast_iff']
  simp [residues, sq]

theorem ordinates_eq_iff :
    p.y * (q.z * q.z % curve.field * q.z % curve.field) % curve.field =
        q.y * (p.z * p.z % curve.field * p.z % curve.field) % curve.field ↔
      curve.residues p 1 * curve.residues q 2 ^ 3 =
        curve.residues q 1 * curve.residues p 2 ^ 3 := by
  rw [← ZMod.natCast_eq_natCast_iff']
  simp [residues, pow_succ]

section Field

variable [prime : Fact curve.field.Prime]

theorem cast_sub_mod (left value : Nat) :
    (Modular.sub curve.field left (value % curve.field) : ZMod curve.field) = left - value := by
  rw [Modular.cast_sub (Nat.mod_lt value prime.out.pos).le, ZMod.natCast_mod]

theorem cast_sub_sub (left middle right : Nat) :
    (Modular.sub curve.field left (Modular.sub curve.field middle right) : ZMod curve.field) =
      left - (Modular.sub curve.field middle right : Nat) :=
  Modular.cast_sub (Modular.sub_lt prime.out.pos).le

variable (curve) in
/-- A triple that stands for an element of the group. -/
structure Represents (p : Jacobian) (point : curve.overResidues.toAffine.Point) : Prop where
  reduced : curve.IsReduced p
  nonsingular : curve.overResidues.Nonsingular (curve.residues p)
  toAffine_eq : Point.toAffine curve.overResidues (curve.residues p) = point

variable (curve) in
theorem isReduced_infinity : curve.IsReduced .infinity :=
  ⟨prime.out.one_lt, prime.out.one_lt, prime.out.pos⟩

variable (curve) in
theorem represents_infinity : curve.Represents .infinity 0 := by
  have shape : curve.residues .infinity = ![1, 1, 0] := by
    simp [residues, Jacobian.infinity]
  refine ⟨isReduced_infinity curve, ?_, ?_⟩
  · rw [shape]
    exact nonsingular_zero
  · rw [shape]
    exact Point.toAffine_zero

variable {left right : curve.overResidues.toAffine.Point}

theorem Represents.eq_zero (represents : curve.Represents p left) (z : p.z = 0) : left = 0 := by
  rw [← represents.toAffine_eq]
  apply Point.toAffine_of_Z_eq_zero
  show (p.z : ZMod curve.field) = 0
  rw [z, Nat.cast_zero]

theorem Represents.residue_ne_zero (represents : curve.Represents p left) (z : p.z ≠ 0) :
    curve.residues p 2 ≠ 0 :=
  (cast_eq_zero_iff represents.reduced.z_lt).not.mpr z

/-- Adding in the group adds the residues. -/
theorem Represents.toAffine_add (pRepresents : curve.Represents p left)
    (qRepresents : curve.Represents q right) :
    Point.toAffine curve.overResidues
      (curve.overResidues.add (curve.residues p) (curve.residues q)) = left + right := by
  rw [Point.toAffine_add pRepresents.nonsingular qRepresents.nonsingular, pRepresents.toAffine_eq,
    qRepresents.toAffine_eq]

/-! ## Doubling -/

theorem isReduced_double (p : Jacobian) : curve.IsReduced (curve.double p) := by
  have positive := prime.out.pos
  unfold double
  split
  · exact isReduced_infinity curve
  · exact ⟨Modular.sub_lt positive, Modular.sub_lt positive, Nat.mod_lt _ positive⟩

theorem residues_double (z : p.z ≠ 0) (y : p.y ≠ 0) :
    curve.residues (curve.double p) = curve.overResidues.dblXYZ (curve.residues p) := by
  simp only [double, z, y, or_self, if_false, residues, dblXYZ, dblX, dblY, dblZ, negDblY, dblU_eq,
    negY, overResidues, cast_sub_mod, cast_sub_sub, Nat.cast_mul, ZMod.natCast_mod, Nat.cast_add,
    Nat.cast_ofNat, fin3_def_ext]
  congr 1
  · ring
  · congr 1
    · ring
    · congr 1
      ring

theorem negY_residues (p : Jacobian) :
    curve.overResidues.negY (curve.residues p) = -(p.y : ZMod curve.field) := by
  simp [negY, overResidues, residues]

theorem Represents.double (represents : curve.Represents p left) :
    curve.Represents (curve.double p) (left + left) := by
  have sum := represents.toAffine_add represents
  by_cases z : p.z = 0
  · rw [represents.eq_zero z, add_zero]
    simpa [Curve.double, z] using represents_infinity curve
  · have zResidue := represents.residue_ne_zero z
    by_cases y : p.y = 0
    · have yResidue : curve.residues p 1 * curve.residues p 2 ^ 3 =
          curve.overResidues.negY (curve.residues p) * curve.residues p 2 ^ 3 := by
        rw [negY_residues]
        simp [residues, y]
      have unit := isUnit_dblU_of_Y_eq represents.nonsingular zResidue zResidue rfl rfl yResidue
      rw [add_of_Y_eq zResidue zResidue rfl rfl yResidue, Point.toAffine_smul _ unit,
        Point.toAffine_zero] at sum
      rw [← sum]
      simpa [Curve.double, y] using represents_infinity curve
    · have shape : curve.residues (curve.double p) =
          curve.overResidues.add (curve.residues p) (curve.residues p) := by
        rw [residues_double z y, add_self]
      refine ⟨isReduced_double p, ?_, ?_⟩
      · rw [shape]
        exact nonsingular_add represents.nonsingular represents.nonsingular
      · rw [shape]
        exact sum

/-! ## Adding -/

theorem isReduced_add (pReduced : curve.IsReduced p) (qReduced : curve.IsReduced q) :
    curve.IsReduced (curve.add p q) := by
  have positive := prime.out.pos
  unfold add
  split
  · exact qReduced
  · split
    · exact pReduced
    · simp only
      split
      · split
        · exact isReduced_double p
        · exact isReduced_infinity curve
      · exact ⟨Modular.sub_lt positive, Modular.sub_lt positive, Nat.mod_lt _ positive⟩

theorem residues_add (pz : p.z ≠ 0) (qz : q.z ≠ 0)
    (apart : curve.residues p 0 * curve.residues q 2 ^ 2 ≠
      curve.residues q 0 * curve.residues p 2 ^ 2)
    (pEquation : curve.overResidues.Equation (curve.residues p))
    (qEquation : curve.overResidues.Equation (curve.residues q)) :
    curve.residues (curve.add p q) =
      (-(p.z * q.z) : ZMod curve.field) •
        curve.overResidues.addXYZ (curve.residues p) (curve.residues q) := by
  have abscissa := addX_eq' pEquation qEquation
  have ordinate := @negAddY_eq' _ _ curve.overResidues (curve.residues p) (curve.residues q)
  rw [ne_eq, ← abscissas_eq_iff] at apart
  simp only [add, pz, qz, apart, if_false]
  simp only [residues, smul_fin3, addXYZ_X, addXYZ_Y, addXYZ_Z, addY, addZ, negY, overResidues,
    cast_sub_mod, cast_sub_sub, Nat.cast_mul, ZMod.natCast_mod, Nat.cast_ofNat,
    fin3_def_ext] at abscissa ordinate ⊢
  congr 1
  · linear_combination -abscissa
  · congr 1
    · linear_combination -ordinate +
        ((q.y : ZMod curve.field) * p.z ^ 3 - p.y * q.z ^ 3) * abscissa
    · congr 1
      ring

/-- Points with one abscissa are equal or inverse to each other. -/
theorem Represents.add_of_abscissas_eq (pRepresents : curve.Represents p left)
    (qRepresents : curve.Represents q right) (pz : p.z ≠ 0) (qz : q.z ≠ 0)
    (abscissas : curve.residues p 0 * curve.residues q 2 ^ 2 =
      curve.residues q 0 * curve.residues p 2 ^ 2) :
    curve.Represents (curve.add p q) (left + right) := by
  have pzResidue := pRepresents.residue_ne_zero pz
  have qzResidue := qRepresents.residue_ne_zero qz
  have sameAbscissa := abscissas_eq_iff.mpr abscissas
  by_cases ordinates : curve.residues p 1 * curve.residues q 2 ^ 3 =
      curve.residues q 1 * curve.residues p 2 ^ 3
  · have equivalent := equiv_of_X_eq_of_Y_eq pzResidue qzResidue abscissas ordinates
    have same : left = right := by
      rw [← pRepresents.toAffine_eq, ← qRepresents.toAffine_eq, Point.toAffine_of_equiv equivalent]
    have shape : curve.add p q = curve.double p := by
      simp only [Curve.add, pz, qz, sameAbscissa, ordinates_eq_iff.mpr ordinates, if_false, if_true]
    rw [shape, ← same]
    exact pRepresents.double
  · have sum := pRepresents.toAffine_add qRepresents
    rw [add_of_Y_ne pRepresents.nonsingular.1 qRepresents.nonsingular.1 pzResidue qzResidue
      abscissas ordinates, Point.toAffine_smul _ (isUnit_addU_of_Y_ne pzResidue qzResidue
        ordinates), Point.toAffine_zero] at sum
    have shape : curve.add p q = .infinity := by
      simp only [Curve.add, pz, qz, sameAbscissa, ordinates_eq_iff.not.mpr ordinates, if_false,
        if_true]
    rw [shape, ← sum]
    exact represents_infinity curve

theorem Represents.add_of_abscissas_ne (pRepresents : curve.Represents p left)
    (qRepresents : curve.Represents q right) (pz : p.z ≠ 0) (qz : q.z ≠ 0)
    (abscissas : curve.residues p 0 * curve.residues q 2 ^ 2 ≠
      curve.residues q 0 * curve.residues p 2 ^ 2) :
    curve.Represents (curve.add p q) (left + right) := by
  have shape : curve.residues (curve.add p q) = (-(p.z * q.z) : ZMod curve.field) •
      curve.overResidues.add (curve.residues p) (curve.residues q) := by
    rw [add_of_not_equiv (not_equiv_of_X_ne abscissas), residues_add pz qz abscissas
      pRepresents.nonsingular.1 qRepresents.nonsingular.1]
  have unit : IsUnit (-(p.z * q.z) : ZMod curve.field) :=
    (neg_ne_zero.mpr (mul_ne_zero (pRepresents.residue_ne_zero pz)
      (qRepresents.residue_ne_zero qz))).isUnit
  refine ⟨isReduced_add pRepresents.reduced qRepresents.reduced, ?_, ?_⟩
  · rw [shape, nonsingular_smul _ unit]
    exact nonsingular_add pRepresents.nonsingular qRepresents.nonsingular
  · rw [shape, Point.toAffine_smul _ unit, pRepresents.toAffine_add qRepresents]

theorem Represents.add (pRepresents : curve.Represents p left)
    (qRepresents : curve.Represents q right) :
    curve.Represents (curve.add p q) (left + right) := by
  by_cases pz : p.z = 0
  · rw [pRepresents.eq_zero pz, zero_add]
    simpa [Curve.add, pz] using qRepresents
  by_cases qz : q.z = 0
  · rw [qRepresents.eq_zero qz, add_zero]
    simpa [Curve.add, pz, qz] using pRepresents
  by_cases abscissas : curve.residues p 0 * curve.residues q 2 ^ 2 =
      curve.residues q 0 * curve.residues p 2 ^ 2
  · exact pRepresents.add_of_abscissas_eq qRepresents pz qz abscissas
  · exact pRepresents.add_of_abscissas_ne qRepresents pz qz abscissas

/-! ## Multiples -/

theorem Represents.scale (represents : curve.Represents p left) (scalar : Nat) :
    curve.Represents (curve.scale scalar p) (scalar • left) := by
  refine Modular.foldl_bits (fun value total => curve.Represents total (value • left)) ?_ ?_ scalar
  · rw [zero_nsmul]
    exact represents_infinity curve
  · intro value total bit read
    have doubled := read.double
    rw [← add_nsmul, ← Nat.two_mul] at doubled
    cases bit with
    | false => exact doubled
    | true =>
        rw [Bool.toNat_true, succ_nsmul]
        exact doubled.add represents

/-! ## Affine points -/

variable (curve) in
/-- The affine point of an element of the group. -/
def affinePoint : curve.overResidues.toAffine.Point → Point
  | .zero => .infinity
  | .some x y _ => .affine x.val y.val

omit prime in
theorem affinePoint_ne_infinity {point : curve.overResidues.toAffine.Point} (finite : point ≠ 0) :
    curve.affinePoint point ≠ .infinity := by
  cases point with
  | zero => exact absurd rfl finite
  | some x y nonsingular => exact nofun

theorem contains_iff (x y : Nat) :
    curve.contains x y = true ↔ curve.overResidues.toAffine.Equation x y := by
  rw [contains, rightSide, beq_iff_eq, ← ZMod.natCast_eq_natCast_iff',
    WeierstrassCurve.Affine.equation_iff]
  simp only [overResidues, Nat.cast_mul, Nat.cast_add, ZMod.natCast_mod]
  constructor <;> intro equation <;> linear_combination equation

theorem Represents.toPoint (large : 2 < curve.field) (represents : curve.Represents p left) :
    curve.toPoint p = curve.affinePoint left := by
  by_cases z : p.z = 0
  · rw [represents.eq_zero z, Curve.toPoint, if_pos z]
    rfl
  · have zResidue : curve.residues p 2 ≠ 0 :=
      (cast_eq_zero_iff represents.reduced.z_lt).not.mpr z
    rw [← represents.toAffine_eq, Point.toAffine_of_Z_ne_zero represents.nonsingular zResidue,
      affinePoint, Curve.toPoint, if_neg z]
    have inverse := Modular.cast_primeInverse large p.z
    simp only [Point.affine.injEq]
    constructor
    · rw [← ZMod.val_natCast]
      congr 1
      simp only [residues, Nat.cast_mul, ZMod.natCast_mod, inverse, fin3_def_ext]
      ring
    · rw [← ZMod.val_natCast]
      congr 1
      simp only [residues, Nat.cast_mul, ZMod.natCast_mod, inverse, fin3_def_ext]
      ring

theorem represents_ofPoint (point : curve.overResidues.toAffine.Point) :
    curve.Represents (.ofPoint (curve.affinePoint point)) point := by
  cases point with
  | zero => exact represents_infinity curve
  | some x y nonsingular =>
      have positive : NeZero curve.field := ⟨prime.out.ne_zero⟩
      have shape : curve.residues (.ofPoint (curve.affinePoint (.some x y nonsingular))) =
          ![x, y, 1] := by
        simp [residues, affinePoint, Jacobian.ofPoint]
      have finite : curve.overResidues.Nonsingular ![x, y, 1] :=
        (nonsingular_some x y).mpr nonsingular
      refine ⟨⟨ZMod.val_lt x, ZMod.val_lt y, prime.out.one_lt⟩, ?_, ?_⟩
      · rw [shape]
        exact finite
      · rw [shape, Point.toAffine_some finite]

end Field

end CertAuthority.Curve
