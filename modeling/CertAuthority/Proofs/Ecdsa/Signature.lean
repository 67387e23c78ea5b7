import CertAuthority.Ecdsa.Encoding
import CertAuthority.Proofs.Curve.Generator
import CertAuthority.Proofs.Der.Value

/-!
# Signatures of elliptic-curve keys

A signature that was made is accepted with the public point of its scalar:
checking it computes the multiple of the generator that the nonce is, because
the scalars are multiplied modulo the order of the generator.  Its written form
is read back.
-/

namespace CertAuthority.Ecdsa

open Curve (Point)

variable {curve : NistCurve}

/-- The point that is computed to check a pair of scalars with a public point. -/
theorem toPoint_add_scale (scalar : NistCurve.Scalar curve) (left right : Nat) :
    curve.params.toPoint (curve.params.add (curve.params.scale left curve.params.generator)
        (curve.params.scale right (.ofPoint scalar.publicPoint))) =
      curve.params.affinePoint ((left + right * scalar.val) • curve.base) := by
  have first := curve.represents_generator.scale left
  have second := (Curve.represents_ofPoint (scalar.val • curve.base)).scale right
  rw [← scalar.publicPoint_eq] at second
  rw [(first.add second).toPoint curve.isUsable.two_lt_field, add_nsmul, mul_nsmul']

/-- Divided by the second scalar of a signature, digest and private scalar give the nonce. -/
theorem cast_nonce {digest first scalar nonce : ZMod curve.params.order} (nonzero : nonce ≠ 0)
    (second : nonce⁻¹ * (digest + first * scalar) ≠ 0) :
    digest * (nonce⁻¹ * (digest + first * scalar))⁻¹ +
      first * (nonce⁻¹ * (digest + first * scalar))⁻¹ * scalar = nonce := by
  have sum : digest + first * scalar ≠ 0 := right_ne_zero_of_mul second
  rw [mul_inv, inv_inv]
  field_simp

/-- What a signature is made of. -/
theorem sign?_eq_some {scalar nonce : NistCurve.Scalar curve} {digest : Octets}
    {signature : Signature} (signed : sign? curve scalar nonce digest = some signature) :
    ∃ x y, nonce.publicPoint = .affine x y ∧ signature.r = x % curve.params.order ∧
      signature.s = Modular.primeInverse nonce.val curve.params.order *
        ((digestScalar curve digest + signature.r * scalar.val) % curve.params.order) %
          curve.params.order ∧ signature.r ≠ 0 ∧ signature.s ≠ 0 := by
  unfold sign? at signed
  simp only at signed
  split at signed
  · cases signed
  · rename_i x y point
    split at signed
    · cases signed
    · rename_i nonzero
      rcases Option.some.inj signed with rfl
      rw [not_or] at nonzero
      exact ⟨x, y, point, rfl, rfl, nonzero.1, nonzero.2⟩

theorem lt_order_of_sign? {scalar nonce : NistCurve.Scalar curve} {digest : Octets}
    {signature : Signature} (signed : sign? curve scalar nonce digest = some signature) :
    signature.r < curve.params.order ∧ signature.s < curve.params.order := by
  rcases sign?_eq_some signed with ⟨x, y, _, first, second, _, _⟩
  rw [first, second]
  exact ⟨Nat.mod_lt _ curve.params_prime.2.pos, Nat.mod_lt _ curve.params_prime.2.pos⟩

/-- A signature that was made is accepted. -/
theorem verify_of_sign? {scalar nonce : NistCurve.Scalar curve} {digest : Octets}
    {signature : Signature} (signed : sign? curve scalar nonce digest = some signature) :
    verify curve scalar.publicPoint digest signature = true := by
  rcases sign?_eq_some signed with ⟨x, y, point, first, second, _, nonzero⟩
  have prime : Fact curve.params.order.Prime := ⟨curve.params_prime.2⟩
  have secondCast : (signature.s : ZMod curve.params.order) =
      (nonce.val : ZMod curve.params.order)⁻¹ *
        (digestScalar curve digest + signature.r * scalar.val) := by
    rw [second]
    simp only [ZMod.natCast_mod, Nat.cast_mul, Nat.cast_add,
      Modular.cast_primeInverse curve.isUsable.two_lt_order]
  have secondLt := (lt_order_of_sign? signed).2
  have secondNonzero : (signature.s : ZMod curve.params.order) ≠ 0 := by
    rw [ne_eq, ZMod.natCast_eq_zero_iff]
    exact Nat.not_dvd_of_pos_of_lt (Nat.pos_of_ne_zero nonzero) secondLt
  have nonceNonzero : (nonce.val : ZMod curve.params.order) ≠ 0 := by
    rw [ne_eq, ZMod.natCast_eq_zero_iff]
    exact Nat.not_dvd_of_pos_of_lt nonce.property.1 nonce.property.2
  have multiple : (digestScalar curve digest * Modular.primeInverse signature.s
        curve.params.order % curve.params.order +
      signature.r * Modular.primeInverse signature.s curve.params.order % curve.params.order *
        scalar.val) • curve.base = nonce.val • curve.base := by
    rw [NistCurve.nsmul_base_eq_iff, ← ZMod.natCast_eq_natCast_iff]
    simp only [ZMod.natCast_mod, Nat.cast_mul, Nat.cast_add,
      Modular.cast_primeInverse curve.isUsable.two_lt_order, secondCast]
    rw [secondCast] at secondNonzero
    exact cast_nonce nonceNonzero secondNonzero
  simp only [verify, toPoint_add_scale, multiple, ← nonce.publicPoint_eq, point]
  exact beq_iff_eq.mpr first.symm

/-! ## Signatures of every digest -/

/-- A nonce makes a signature if no part of it is zero, and the second part is zero only if the
digest and the private scalar cancel. -/
theorem exists_sign?_of_ne_zero {scalar nonce : NistCurve.Scalar curve} {digest : Octets}
    {x y : Nat} (point : nonce.publicPoint = .affine x y) (first : x % curve.params.order ≠ 0)
    (second : (digestScalar curve digest + x % curve.params.order * scalar.val) %
      curve.params.order ≠ 0) :
    ∃ signature, sign? curve scalar nonce digest = some signature := by
  have prime : Fact curve.params.order.Prime := ⟨curve.params_prime.2⟩
  have product : Modular.primeInverse nonce.val curve.params.order *
      ((digestScalar curve digest + x % curve.params.order * scalar.val) % curve.params.order) %
        curve.params.order ≠ 0 := by
    intro zero
    rcases prime.out.dvd_mul.mp (Nat.dvd_of_mod_eq_zero zero) with divides | divides
    · rw [← ZMod.natCast_eq_zero_iff, Modular.cast_primeInverse curve.isUsable.two_lt_order,
        inv_eq_zero, ZMod.natCast_eq_zero_iff] at divides
      exact Nat.not_dvd_of_pos_of_lt nonce.property.1 nonce.property.2 divides
    · exact second (Nat.eq_zero_of_dvd_of_lt divides (Nat.mod_lt _ prime.out.pos))
  simp only [sign?, point]
  rw [if_neg (not_or_intro first product)]
  exact ⟨_, rfl⟩

/-- The digest and the private scalar do not cancel for two nonces with different first parts. -/
theorem eq_of_cancel {digest scalar first second : Nat}
    (inRange : 0 < scalar ∧ scalar < curve.params.order)
    (firstZero : (digest + first * scalar) % curve.params.order = 0)
    (secondZero : (digest + second * scalar) % curve.params.order = 0) :
    first % curve.params.order = second % curve.params.order := by
  have coprime : curve.params.order.Coprime scalar :=
    Nat.coprime_of_lt_prime inRange.1.ne' inRange.2 curve.params_prime.2
  have sums : digest + first * scalar ≡ digest + second * scalar [MOD curve.params.order] :=
    firstZero.trans secondZero.symm
  exact Nat.ModEq.cancel_right_of_coprime coprime (Nat.ModEq.add_left_cancel' digest sums)

/-- The scalar of the generator itself, or of its double. -/
def smallScalar (curve : NistCurve) (second : Bool) : NistCurve.Scalar curve :=
  ⟨if second then 2 else 1, by cases curve <;> cases second <;> decide⟩

/-- The abscissa of a point, zero for infinity. -/
def abscissa : Point → Nat
  | .infinity => 0
  | .affine x _ => x

theorem abscissa_smallScalar (curve : NistCurve) :
    (∀ second, abscissa (smallScalar curve second).publicPoint % curve.params.order ≠ 0) ∧
      abscissa (smallScalar curve false).publicPoint % curve.params.order ≠
        abscissa (smallScalar curve true).publicPoint % curve.params.order := by
  cases curve <;> decide +kernel

/-- Every private scalar signs every digest, with one of two nonces. -/
theorem exists_sign? (scalar : NistCurve.Scalar curve) (digest : Octets) :
    ∃ nonce signature, sign? curve scalar nonce digest = some signature := by
  rcases abscissa_smallScalar curve with ⟨nonzero, apart⟩
  by_contra never
  have cancels : ∀ second, (digestScalar curve digest +
      abscissa (smallScalar curve second).publicPoint % curve.params.order * scalar.val) %
        curve.params.order = 0 := by
    intro second
    by_contra remains
    cases point : (smallScalar curve second).publicPoint with
    | infinity => exact absurd point (smallScalar curve second).publicPoint_ne_infinity
    | affine x y =>
        have first := nonzero second
        rw [point] at first remains
        rcases exists_sign?_of_ne_zero point first remains with ⟨signature, signed⟩
        exact never ⟨_, signature, signed⟩
  have same := eq_of_cancel scalar.property (cancels false) (cancels true)
  rw [Nat.mod_mod, Nat.mod_mod] at same
  exact apart same

/-! ## Written signatures -/

namespace Signature

theorem reads_pair (signature : Signature) :
    Der.Reads (Der.decodeNested Der.Tag.sequence decodePair) signature.encode signature := by
  refine Der.Fills.nested ((Der.reads_unsigned signature.r).bind ?_)
  exact (Der.reads_unsigned signature.s).last rfl

/-- The written form of a signature that was made has at most 152 octets. -/
theorem length_encode_le {scalar nonce : NistCurve.Scalar curve} {digest : Octets}
    {signature : Signature} (signed : sign? curve scalar nonce digest = some signature) :
    signature.encode.length ≤ 152 := by
  rcases lt_order_of_sign? signed with ⟨firstLt, secondLt⟩
  have narrow : curve.params.width ≤ 66 := by cases curve <;> decide
  have room : 2 * (curve.params.width + 7) + 6 ≤ Der.maxLength := by
    unfold Der.maxLength
    omega
  have numbers : ∀ value ∈ [signature.r, signature.s], value < 256 ^ curve.params.width := by
    have r := firstLt.trans_le curve.isUsable.order_le_pow_width
    have s := secondLt.trans_le curve.isUsable.order_le_pow_width
    simp [r, s]
  have octets : signature.encode.length ≤ 2 * (curve.params.width + 7) + 6 := by
    simpa [encode] using Der.length_encode_unsigned_le_width numbers room
  omega

/-- The written form of a signature that was made is read back. -/
theorem decode?_encode {scalar nonce : NistCurve.Scalar curve} {digest : Octets}
    {signature : Signature} (signed : sign? curve scalar nonce digest = some signature) :
    decode? curve signature.encode = some signature := by
  rcases sign?_eq_some signed with ⟨x, y, _, _, _, firstNonzero, secondNonzero⟩
  rcases lt_order_of_sign? signed with ⟨firstLt, secondLt⟩
  have bound : signature.encode.length ≤ Der.maxLength :=
    (length_encode_le signed).trans (by decide)
  rw [decode?, signature.reads_pair.complete bound]
  simp [firstLt, secondLt, Nat.pos_of_ne_zero firstNonzero, Nat.pos_of_ne_zero secondNonzero]

end Signature

end CertAuthority.Ecdsa
