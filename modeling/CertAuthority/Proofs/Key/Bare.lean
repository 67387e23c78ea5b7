import CertAuthority.Proofs.Key.Generate

/-!
# Scalars without a public point

An elliptic-curve key may be written as its scalar alone, in the full width of
its curve.  It is read on its own curve, except for the scalars of the smallest
curve: they are as long as some scalars of the next one, which is tried before,
and all of them are in its range.  So they are read as keys of that curve.
-/

namespace CertAuthority

/-- The curve on which the scalars of a curve are read when they are written alone. -/
def NistCurve.bareCurve : NistCurve → NistCurve
  | p224 => p256
  | curve => curve

theorem NistCurve.bareCurve_eq_self_iff {curve : NistCurve} :
    curve.bareCurve = curve ↔ curve ≠ .p224 := by
  cases curve <;> decide

namespace EllipticCurveKey

variable {curve : NistCurve}

/-- The written key of a scalar, with nothing but the scalar. -/
def bare (scalar : NistCurve.Scalar curve) : EllipticCurveKey :=
  ⟨curve.coordinate scalar.val, none, none⟩

theorem length_encode_bare_le (scalar : NistCurve.Scalar curve) :
    (bare scalar).encode.length ≤ 81 := by
  have width : curve.params.width ≤ 66 := by cases curve <;> decide
  have coordinate := curve.length_coordinate scalar.val
  have number : (Der.encodeOctetString (curve.coordinate scalar.val)).length ≤
      (curve.coordinate scalar.val).length + 6 :=
    Der.length_encode_le _ (by rw [coordinate, Der.maxLength]; omega)
  have one : (Der.encodeUnsigned version).length = 3 := by decide
  have content : (Der.encodeUnsigned version ++ Der.encodeOctetString (bare scalar).scalar ++
      []).length ≤ 75 := by
    simp only [bare, List.length_append, one, List.length_nil]
    omega
  exact (Der.length_encode_le Der.Tag.sequence (content.trans (by decide))).trans
    (Nat.add_le_add_right content 6)

theorem decode?_bare (scalar : NistCurve.Scalar curve) :
    decode? (bare scalar).encode = some (bare scalar) :=
  (reads _ _).complete ((length_encode_bare_le scalar).trans (by decide))

/-- The scalar alone fits every curve that has room for its octets and its number. -/
theorem fits_bare (scalar : NistCurve.Scalar curve) {other : NistCurve}
    (found : NistCurve.Scalar other) (wide : curve.params.width ≤ other.params.width)
    (value : found.val = scalar.val) : (bare scalar).Fits found where
  long := by
    rw [bare, NistCurve.length_coordinate]
    cases curve <;> decide
  short := (curve.length_coordinate scalar.val).le.trans wide
  value := by
    rw [value]
    exact Octets.toNat_ofNatPadded_of_lt
      (scalar.property.2.trans_le curve.isUsable.order_le_pow_width)
  point _ written := nomatch written

/-- The scalar alone is read on its curve, or on the one that comes before it. -/
theorem exists_fitsFirst_bare (scalar : NistCurve.Scalar curve) :
    ∃ found : NistCurve.Scalar curve.bareCurve, found.val = scalar.val ∧
      (bare scalar).FitsFirst found := by
  have order : curve.params.order ≤ curve.bareCurve.params.order := by cases curve <;> decide
  have wide : curve.params.width ≤ curve.bareCurve.params.width := by cases curve <;> decide
  have narrower : ∀ prior ∈ curve.bareCurve.earlier,
      prior.params.width < curve.params.width := by cases curve <;> decide
  have inRange := scalar.property.2.trans_le order
  refine ⟨⟨scalar.val, scalar.property.1, inRange⟩, rfl,
    (fits_bare scalar _ wide rfl).fitsFirst (Or.inr fun prior before => ?_)⟩
  rw [bare, NistCurve.length_coordinate]
  exact narrower prior before

end EllipticCurveKey

/-- The key pair of a scalar that is written alone has the same scalar. -/
theorem KeyContainer.exists_find?_bare {curve : NistCurve} (scalar : NistCurve.Scalar curve) :
    ∃ found : NistCurve.Scalar curve.bareCurve, found.val = scalar.val ∧
      find? (EllipticCurveKey.bare scalar).encode =
        some (.sec1, .ecdsa curve.bareCurve found) := by
  rcases EllipticCurveKey.exists_fitsFirst_bare scalar with ⟨found, value, fitsFirst⟩
  refine ⟨found, value, ?_⟩
  rw [find?_eq_some, pair?, EllipticCurveKey.decode?_bare]
  exact EllipticCurveKey.findSome?_pairOn?_eq_some.mpr ⟨_, found, fitsFirst, rfl⟩

theorem KeyPair.ecdsa_bareCurve_eq_iff {curve : NistCurve} {scalar : NistCurve.Scalar curve}
    {found : NistCurve.Scalar curve.bareCurve} (value : found.val = scalar.val) :
    KeyPair.ecdsa curve.bareCurve found = .ecdsa curve scalar ↔ curve ≠ .p224 := by
  constructor
  · intro same
    exact NistCurve.bareCurve_eq_self_iff.mp (KeyPair.ecdsa.inj same).1
  · intro larger
    cases curve with
    | p224 => exact absurd rfl larger
    | p256 => exact congrArg _ (Subtype.ext value)
    | p384 => exact congrArg _ (Subtype.ext value)
    | p521 => exact congrArg _ (Subtype.ext value)

/-- A scalar that is written alone, in the full width of its curve, is loaded as the same number.
It is a key of its curve exactly if this is not the smallest one, whose scalars are loaded as keys
of the next. -/
theorem Key.load_bare {curve : NistCurve} (scalar : NistCurve.Scalar curve) {label : String}
    (isLabel : Pem.IsLabel label) (environment : Environment) :
    (EllipticCurveKey.bare scalar).scalar.length = curve.params.width ∧
      ∃ (key : Key) (found : NistCurve.Scalar curve.bareCurve),
        load (Pem.encode label (EllipticCurveKey.bare scalar).encode) environment = .ok key
            { environment with events := environment.events ++ [.loadedKey .sec1] } ∧
          key.pair = .ecdsa curve.bareCurve found ∧ found.val = scalar.val ∧
            (key.pair = .ecdsa curve scalar ↔ curve ≠ .p224) := by
  rcases KeyContainer.exists_find?_bare scalar with ⟨found, value, read⟩
  exact ⟨curve.length_coordinate scalar.val, _, found,
    load_encode isLabel (Der.encode_ne_nil _ _) read environment, rfl, value,
    KeyPair.ecdsa_bareCurve_eq_iff value⟩

/-- The largest scalar of a curve. -/
def NistCurve.lastScalar (curve : NistCurve) : Scalar curve :=
  ⟨curve.params.order - 1, by
    have large := curve.isUsable.two_lt_order
    omega⟩

/-- The file of a scalar that is written alone. -/
def EllipticCurveKey.bareFile {curve : NistCurve} (scalar : NistCurve.Scalar curve) : Octets :=
  Pem.encode "EC PRIVATE KEY" (bare scalar).encode

theorem isLabel_bareFile : Pem.IsLabel "EC PRIVATE KEY" :=
  (KeyPair.ecdsa .p256 NistCurve.p256.lastScalar).isLabel

/-- The largest scalar of the largest curve is loaded as a key of this curve. -/
theorem Key.load_bareFile_last : ∃ key,
    load (EllipticCurveKey.bareFile NistCurve.p521.lastScalar) ⟨⟨fun _ => 0, 0⟩, []⟩ =
        .ok key ⟨⟨fun _ => 0, 0⟩, [.loadedKey .sec1]⟩ ∧
      key.pair = .ecdsa .p521 NistCurve.p521.lastScalar := by
  rcases Key.load_bare NistCurve.p521.lastScalar isLabel_bareFile ⟨⟨fun _ => 0, 0⟩, []⟩ with
    ⟨_, key, _, loaded, _, _, same⟩
  exact ⟨key, loaded, same.mpr (by decide)⟩

/-- The largest scalar of the smallest curve is loaded as a key of the next curve, and not as
itself. -/
theorem Key.load_bareFile_smallest_curve : ∃ key found,
    load (EllipticCurveKey.bareFile NistCurve.p224.lastScalar) ⟨⟨fun _ => 0, 0⟩, []⟩ =
        .ok key ⟨⟨fun _ => 0, 0⟩, [.loadedKey .sec1]⟩ ∧
      key.pair = .ecdsa .p256 found ∧ found.val = NistCurve.p224.params.order - 1 ∧
        key.pair ≠ .ecdsa .p224 NistCurve.p224.lastScalar := by
  rcases KeyContainer.exists_find?_bare NistCurve.p224.lastScalar with ⟨found, value, read⟩
  exact ⟨_, found, load_encode isLabel_bareFile (Der.encode_ne_nil _ _) read _, rfl, value,
    fun same => (KeyPair.ecdsa_bareCurve_eq_iff value).mp same rfl⟩

end CertAuthority
