import CertAuthority.Key.Container
import CertAuthority.Proofs.Curve.PointEncoding

/-!
# The curve of a written key

A written elliptic-curve key is a scalar of a curve if it is not longer than the
curve allows, its number is in range, and the public point belongs to it if one
is written (`EllipticCurveKey.Fits`).  It may fit several curves; it is read on
the first of them in the order in which they are tried.

A public point fits one curve only.  Without one, a key tells its curve by its
length alone, and only if it is too long for the curves that are tried before.
The name of a curve that is written in the key plays no part in this.
-/

namespace CertAuthority

namespace NistCurve

theorem Scalar.ofNat?_eq_some {curve : NistCurve} {value : Nat} {scalar : Scalar curve} :
    Scalar.ofNat? curve value = some scalar ↔ value = scalar.val := by
  unfold ofNat?
  constructor
  · intro found
    split at found
    · exact congrArg Subtype.val (Option.some.inj found)
    · cases found
  · rintro rfl
    rw [dif_pos scalar.property]

/-- The curves that are tried before a curve. -/
def earlier (curve : NistCurve) : List NistCurve :=
  all.takeWhile (· ≠ curve)

theorem ne_of_mem_earlier {curve prior : NistCurve} (before : prior ∈ curve.earlier) :
    prior ≠ curve := by
  revert before
  cases prior <;> cases curve <;> decide

/-- The order of the curves is that of the list of all of them. -/
theorem all_eq (curve : NistCurve) : ∃ later, all = curve.earlier ++ curve :: later := by
  cases curve with
  | p224 => exact ⟨[], rfl⟩
  | p256 => exact ⟨[p384, p521, p224], rfl⟩
  | p384 => exact ⟨[p521, p224], rfl⟩
  | p521 => exact ⟨[p224], rfl⟩

theorem earlier_eq {curve : NistCurve} {before later : List NistCurve}
    (split : all = before ++ curve :: later) : before = curve.earlier := by
  have nodup : all.Nodup := by decide
  rw [split, List.nodup_append] at nodup
  have apart : ∀ prior ∈ before, decide (prior ≠ curve) = true := by
    intro prior member
    exact decide_eq_true (nodup.2.2 prior member curve List.mem_cons_self)
  rw [earlier, split, List.takeWhile_append_of_pos apart, List.takeWhile_cons_of_neg (by simp),
    List.append_nil]

end NistCurve

namespace EllipticCurveKey

variable {curve : NistCurve} {key : EllipticCurveKey}

/-- A written key is a scalar of a curve. -/
structure Fits (key : EllipticCurveKey) (scalar : NistCurve.Scalar curve) : Prop where
  long : minScalarSize ≤ key.scalar.length
  short : key.scalar.length ≤ curve.params.width
  value : Octets.toNat key.scalar = scalar.val
  point : ∀ point, key.publicPoint = some point →
    point ∈ curve.pointEncodings scalar.publicPoint

theorem scalarOn?_eq_some {scalar : NistCurve.Scalar curve} :
    key.scalarOn? curve = some scalar ↔ key.Fits scalar := by
  simp only [scalarOn?, Option.ite_none_left_eq_some, not_or, Nat.not_lt,
    Option.bind_eq_bind, Option.bind_eq_some_iff, NistCurve.Scalar.ofNat?_eq_some]
  constructor
  · rintro ⟨⟨long, short⟩, found, value, checked⟩
    cases written : key.publicPoint with
    | none =>
        rw [written] at checked
        rcases Option.some.inj checked with rfl
        exact ⟨long, short, value, fun point other => by rw [written] at other; cases other⟩
    | some point =>
        simp only [written, List.contains_iff_mem, Option.ite_none_right_eq_some,
          Option.some.injEq] at checked
        rcases checked with ⟨member, rfl⟩
        refine ⟨long, short, value, fun other same => ?_⟩
        rw [written] at same
        rwa [← Option.some.inj same]
  · intro fits
    refine ⟨⟨fits.long, fits.short⟩, scalar, fits.value, ?_⟩
    cases written : key.publicPoint with
    | none => rfl
    | some point => exact if_pos (List.contains_iff_mem.mpr (fits.point point written))

/-- A key is read on the first curve that it fits. -/
structure FitsFirst (key : EllipticCurveKey) (scalar : NistCurve.Scalar curve) : Prop where
  fits : key.Fits scalar
  first : ∀ prior ∈ curve.earlier, ∀ other : NistCurve.Scalar prior, ¬ key.Fits other

theorem pairOn?_eq_some {pair : KeyPair} :
    key.pairOn? curve = some pair ↔
      ∃ scalar : NistCurve.Scalar curve, key.Fits scalar ∧ pair = .ecdsa curve scalar := by
  rw [pairOn?, Option.map_eq_some_iff]
  simp only [scalarOn?_eq_some, eq_comm (a := pair)]

theorem pairOn?_eq_none :
    key.pairOn? curve = none ↔ ∀ scalar : NistCurve.Scalar curve, ¬ key.Fits scalar := by
  rw [pairOn?, Option.map_eq_none_iff, Option.eq_none_iff_forall_ne_some]
  simp only [ne_eq, scalarOn?_eq_some]

/-- The search through the curves finds the first curve that a key fits. -/
theorem findSome?_pairOn?_eq_some {pair : KeyPair} :
    NistCurve.all.findSome? key.pairOn? = some pair ↔
      ∃ (curve : NistCurve) (scalar : NistCurve.Scalar curve),
        key.FitsFirst scalar ∧ pair = .ecdsa curve scalar := by
  rw [List.findSome?_eq_some_iff]
  constructor
  · rintro ⟨before, curve, later, split, found, refused⟩
    rcases pairOn?_eq_some.mp found with ⟨scalar, fits, rfl⟩
    rw [NistCurve.earlier_eq split] at refused
    exact ⟨curve, scalar, ⟨fits, fun prior before => pairOn?_eq_none.mp (refused prior before)⟩,
      rfl⟩
  · rintro ⟨curve, scalar, fitsFirst, rfl⟩
    rcases curve.all_eq with ⟨later, split⟩
    exact ⟨curve.earlier, curve, later, split, pairOn?_eq_some.mpr ⟨scalar, fitsFirst.fits, rfl⟩,
      fun prior before => pairOn?_eq_none.mpr (fitsFirst.first prior before)⟩

/-! ## Keys that tell their curve -/

/-- A key tells its curve if a public point is written or it is too long for the curves that are
tried before. -/
def TellsCurve (key : EllipticCurveKey) (curve : NistCurve) : Prop :=
  key.publicPoint ≠ none ∨ ∀ prior ∈ curve.earlier, prior.params.width < key.scalar.length

/-- With a public point, a key fits one curve only. -/
theorem Fits.curve_eq {scalar : NistCurve.Scalar curve} {other : NistCurve}
    {otherScalar : NistCurve.Scalar other} (written : key.publicPoint ≠ none)
    (fits : key.Fits scalar) (otherFits : key.Fits otherScalar) : other = curve := by
  rcases Option.ne_none_iff_exists'.mp written with ⟨point, written⟩
  have length := NistCurve.Scalar.length_of_mem_pointEncodings (fits.point point written)
  have otherLength := NistCurve.Scalar.length_of_mem_pointEncodings (otherFits.point point written)
  by_contra different
  have apart := NistCurve.widths_apart different
  omega

theorem Fits.fitsFirst {scalar : NistCurve.Scalar curve} (fits : key.Fits scalar)
    (tells : key.TellsCurve curve) : key.FitsFirst scalar := by
  refine ⟨fits, fun prior before other otherFits => ?_⟩
  rcases tells with written | long
  · exact NistCurve.ne_of_mem_earlier before (fits.curve_eq written otherFits)
  · exact absurd otherFits.short (Nat.not_le.mpr (long prior before))

/-- A scalar with its own public point is written for its curve. -/
theorem fits_ofScalar (scalar : NistCurve.Scalar curve) : (ofScalar scalar).Fits scalar where
  long := by
    rw [ofScalar, NistCurve.length_coordinate]
    cases curve <;> decide
  short := (curve.length_coordinate scalar.val).le
  value :=
    Octets.toNat_ofNatPadded_of_lt (scalar.property.2.trans_le curve.isUsable.order_le_pow_width)
  point point written := by
    rw [← Option.some.inj written]
    exact curve.encodePoint_mem_pointEncodings _

theorem pairOn?_ofScalar (scalar : NistCurve.Scalar curve) :
    (ofScalar scalar).pairOn? curve = some (.ecdsa curve scalar) :=
  pairOn?_eq_some.mpr ⟨scalar, fits_ofScalar scalar, rfl⟩

/-- The first curve that accepts a scalar with its public point is its own. -/
theorem findSome?_pairOn?_ofScalar (scalar : NistCurve.Scalar curve) :
    NistCurve.all.findSome? (ofScalar scalar).pairOn? = some (.ecdsa curve scalar) :=
  findSome?_pairOn?_eq_some.mpr ⟨curve, scalar,
    (fits_ofScalar scalar).fitsFirst (Or.inl (Option.some_ne_none _)), rfl⟩

end EllipticCurveKey

end CertAuthority
