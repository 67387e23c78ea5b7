import CertAuthority.Proofs.Key.Consistency
import CertAuthority.Proofs.X509.Distinguished

/-!
# What the octets of a key say

A key pair that is loaded is the one that its octets state.  Wrapped octets
state its algorithm, with the curve, and contain the octets of the key; these
are the numbers of an RSA key, or the scalar of an elliptic-curve key with its
public point (`KeyContainer.States`).  No octets are keys in two encodings, so
that the encodings can be tried in any order.

The one statement that is passed over is the name of the curve within an
elliptic-curve key.  Without a wrapping, the key is on the first curve that it
fits, whatever curve it names.
-/

namespace CertAuthority

open Der (BitString Oid)
open X509 (AlgorithmIdentifier)

/-! ## The key of one algorithm -/

/-- Octets are the numbers of an RSA key: a zero version, its six numbers, and three numbers that
are not kept. -/
def Rsa.PrivateKey.IsWrittenIn (octets : Octets) (key : Rsa.PrivateKey) : Prop :=
  ∃ firstExponent secondExponent coefficient, octets = Der.encode Der.Tag.sequence
    ([0, key.publicKey.modulus, key.publicKey.exponent, key.privateExponent, key.firstFactor,
      key.secondFactor, firstExponent, secondExponent, coefficient].flatMap Der.encodeUnsigned)

theorem Rsa.PrivateKey.isWrittenIn_of_decode? {octets : Octets} {key : Rsa.PrivateKey}
    (read : decode? octets = some key) : key.IsWrittenIn octets := by
  rcases Option.bind_eq_some_iff.mp read with ⟨numbers, whole, found⟩
  have written := Der.exact_unsigned.list.of_complete whole
  split at found
  · simp only [Option.ite_none_right_eq_some] at found
    rcases found with ⟨rfl, found⟩
    rcases ofNumbers?_eq_some found with ⟨publicKey, privateExponent, first, second⟩
    rw [IsWrittenIn, publicKey, privateExponent, first, second]
    exact ⟨_, _, _, written⟩
  · cases found

namespace EllipticCurveKey

/-- The field for the name of the curve. -/
def nameField (name : Oid) : Octets :=
  Der.encode (Der.Tag.constructedField 0) name.encode

/-- The field for the public point. -/
def pointField (point : Octets) : Octets :=
  Der.encode (Der.Tag.constructedField 1) (BitString.ofOctets point).encode

/-- Octets are an elliptic-curve key: the version, the scalar, the name of the curve if one is
given, and the public point at the end if one is given. -/
structure IsWrittenIn (octets : Octets) (key : EllipticCurveKey) : Prop where
  read : decode? octets = some key
  shape : ∃ fields, octets = Der.encode Der.Tag.sequence (Der.encodeUnsigned version ++
      (Der.encodeOctetString key.scalar ++ (Der.optionalOctets nameField key.curve ++ fields))) ∧
    ∀ point, key.publicPoint = some point → pointField point <:+ fields

theorem exact_whole : Der.Exact decodeWhole fun octets => (BitString.ofOctets octets).encode := by
  intro octets value rest read
  rcases Option.bind_eq_some_iff.mp read with ⟨⟨bits, after⟩, first, read⟩
  rcases Option.bind_eq_some_iff.mp read with ⟨whole, all, read⟩
  cases read
  rw [BitString.exact _ _ _ first]
  simp only [BitString.wholeOctets?, Option.ite_none_right_eq_some, Option.some.injEq] at all
  rcases bits with ⟨unused, bitOctets, fitting⟩
  rcases all with ⟨rfl, rfl⟩
  rfl

theorem isWrittenIn_of_decode? {octets : Octets} {key : EllipticCurveKey}
    (read : decode? octets = some key) : key.IsWrittenIn octets := by
  refine ⟨read, ?_⟩
  rcases Der.decodeNested_eq_some (Der.complete_eq_some.mp read) with ⟨content, whole, _, fields⟩
  rw [List.append_nil] at whole
  rcases Option.bind_eq_some_iff.mp fields with ⟨⟨found, afterVersion⟩, versionRead, fields⟩
  dsimp only at fields
  split at fields
  · cases fields
  rename_i known
  rcases Option.bind_eq_some_iff.mp fields with ⟨⟨scalar, afterScalar⟩, scalarRead, fields⟩
  rcases Option.bind_eq_some_iff.mp fields with ⟨⟨curve, afterCurve⟩, curveRead, fields⟩
  rcases Option.bind_eq_some_iff.mp fields with ⟨⟨publicPoint, last⟩, pointRead, fields⟩
  cases fields
  have named : afterScalar = Der.optionalOctets nameField curve ++ afterCurve :=
    Der.exact_oid.nested.firstField _ _ _ curveRead
  refine ⟨afterCurve, ?_, ?_⟩
  · rw [whole, Der.exact_unsigned _ _ _ versionRead, not_not.mp known,
      Der.exact_octetString _ _ _ scalarRead, named]
  · rintro point same
    obtain rfl : publicPoint = some point := same
    rcases Der.exists_of_decodeFieldAfter pointRead with ⟨start, ending, first⟩
    have written : start = pointField point ++ [] := exact_whole.nested _ _ _ first
    rw [written, List.append_nil] at ending
    exact ending

end EllipticCurveKey

namespace KeyPair

/-- Octets are a key pair in the encoding of its algorithm; a scalar, and the public point if one
is written, are those of the curve. -/
def IsWrittenIn (octets : Octets) : KeyPair → Prop
  | rsa key => key.IsWrittenIn octets
  | ecdsa _ scalar => ∃ written : EllipticCurveKey, written.IsWrittenIn octets ∧ written.Fits scalar

/-- What the numbers of a key pair have to do with each other: the modulus is the product of the
factors, and the exponents undo each other for each factor; the scalar is in range, and the public
point is that multiple of the distinguished point. -/
def HasSoundNumbers : KeyPair → Prop
  | rsa key => key.firstFactor * key.secondFactor = key.publicKey.modulus ∧
      key.publicKey.exponent * key.privateExponent % (key.firstFactor - 1) = 1 ∧
        key.publicKey.exponent * key.privateExponent % (key.secondFactor - 1) = 1
  | ecdsa curve scalar => 0 < scalar.val ∧ scalar.val < curve.params.order ∧
      scalar.publicPoint = curve.params.affinePoint (scalar.val • curve.base)

theorem hasSoundNumbers (pair : KeyPair) : pair.HasSoundNumbers := by
  cases pair with
  | rsa key => exact ⟨key.factors_mul, key.firstExponent_spec, key.secondExponent_spec⟩
  | ecdsa curve scalar => exact ⟨scalar.property.1, scalar.property.2, scalar.publicPoint_eq⟩

end KeyPair

/-! ## Wrapped keys -/

namespace WrappedKey

/-- Octets are a wrapped key: one of two versions, the algorithm, the key, and further fields. -/
def IsWrittenIn (octets : Octets) (wrapped : WrappedKey) : Prop :=
  ∃ version fields, version ≤ 1 ∧ octets = Der.encode Der.Tag.sequence
    (Der.encodeUnsigned version ++
      (wrapped.algorithm.encode ++ (Der.encodeOctetString wrapped.key ++ fields)))

theorem isWrittenIn_of_decode? {octets : Octets} {wrapped : WrappedKey}
    (read : decode? octets = some wrapped) : wrapped.IsWrittenIn octets := by
  rcases Der.decodeNested_eq_some (Der.complete_eq_some.mp read) with ⟨content, whole, _, fields⟩
  rw [List.append_nil] at whole
  rcases Option.bind_eq_some_iff.mp fields with ⟨⟨version, afterVersion⟩, versionRead, fields⟩
  simp only [Option.ite_none_left_eq_some, Nat.not_lt] at fields
  rcases fields with ⟨known, fields⟩
  rcases Option.bind_eq_some_iff.mp fields with ⟨⟨algorithm, afterAlgorithm⟩, algorithmRead, fields⟩
  rcases Option.bind_eq_some_iff.mp fields with ⟨⟨key, afterKey⟩, keyRead, fields⟩
  rcases Option.bind_eq_some_iff.mp fields with ⟨⟨publicKey, last⟩, _, fields⟩
  simp only [Option.ite_none_right_eq_some] at fields
  rcases fields with ⟨_, fields⟩
  cases fields
  have keyWritten : afterAlgorithm = Der.encodeOctetString key ++ afterKey :=
    Der.exact_octetString _ _ _ keyRead
  refine ⟨version, afterKey, known, ?_⟩
  rw [whole, Der.exact_unsigned _ _ _ versionRead, AlgorithmIdentifier.exact _ _ _ algorithmRead,
    keyWritten]

/-- The parameters that name a curve are nothing but its identifier. -/
theorem algorithm_eq_of_parametersOid? {algorithm : AlgorithmIdentifier} {curve : NistCurve}
    (isEllipticCurve : algorithm.oid = ellipticCurveOid)
    (named : algorithm.parametersOid? = some curve.oid) : algorithm = curve.keyIdentifier := by
  rcases algorithm with ⟨oid, parameters⟩
  obtain rfl : oid = ellipticCurveOid := isEllipticCurve
  cases parameters with
  | none => cases named
  | some any =>
      rcases any with ⟨tag, content⟩
      simp only [AlgorithmIdentifier.parametersOid?, Option.ite_none_right_eq_some] at named
      rcases named with ⟨rfl, named⟩
      obtain rfl := (Oid.ofContent?_eq_some named).1
      rfl

/-- The key pair of a wrapped key is an RSA key or on one of the curves. -/
theorem pair?_cases {wrapped : WrappedKey} {pair : KeyPair} (found : wrapped.pair? = some pair) :
    wrapped.rsaPair? = some pair ∨ ∃ curve, wrapped.ellipticCurvePair? curve = some pair := by
  unfold pair? at found
  cases rsa : wrapped.rsaPair? with
  | some other => exact Or.inl (by rwa [rsa] at found)
  | none =>
      rw [rsa] at found
      rcases List.exists_of_findSome?_eq_some found with ⟨curve, _, found⟩
      exact Or.inr ⟨curve, found⟩

/-- The key pair of a wrapped key is of the algorithm that is stated. -/
theorem pair?_eq_some {wrapped : WrappedKey} {pair : KeyPair} (found : wrapped.pair? = some pair) :
    wrapped.algorithm = pair.publicKeyInfo.algorithm ∧ pair.IsWrittenIn wrapped.key := by
  rcases pair?_cases found with found | ⟨curve, found⟩
  · simp only [rsaPair?, Option.ite_none_right_eq_some, Option.map_eq_some_iff] at found
    rcases found with ⟨same, key, read, rfl⟩
    exact ⟨same, Rsa.PrivateKey.isWrittenIn_of_decode? read⟩
  · simp only [ellipticCurvePair?, Option.ite_none_right_eq_some] at found
    rcases found with ⟨⟨isEllipticCurve, named⟩, found⟩
    rcases Option.bind_eq_some_iff.mp found with ⟨written, read, found⟩
    rcases EllipticCurveKey.pairOn?_eq_some.mp found with ⟨scalar, fits, rfl⟩
    exact ⟨algorithm_eq_of_parametersOid? isEllipticCurve named, written,
      EllipticCurveKey.isWrittenIn_of_decode? read, fits⟩

end WrappedKey

/-! ## The encodings -/

namespace KeyContainer

/-- Octets of an encoding state a key pair: wrapped octets by its algorithm and the octets of the
key, the others by these alone.  An elliptic-curve key that is not wrapped is on the first curve
that it fits. -/
def States (octets : Octets) (pair : KeyPair) : KeyContainer → Prop
  | pkcs8 => ∃ wrapped : WrappedKey, wrapped.IsWrittenIn octets ∧
      wrapped.algorithm = pair.publicKeyInfo.algorithm ∧ pair.IsWrittenIn wrapped.key
  | pkcs1 => ∃ key : Rsa.PrivateKey, key.IsWrittenIn octets ∧ pair = .rsa key
  | sec1 => ∃ written : EllipticCurveKey, written.IsWrittenIn octets ∧
      ∃ (curve : NistCurve) (scalar : NistCurve.Scalar curve),
        written.FitsFirst scalar ∧ pair = .ecdsa curve scalar

theorem states_of_pair? {container : KeyContainer} {octets : Octets} {pair : KeyPair}
    (read : container.pair? octets = some pair) : container.States octets pair := by
  cases container with
  | pkcs8 =>
      rcases Option.bind_eq_some_iff.mp read with ⟨wrapped, whole, found⟩
      exact ⟨wrapped, WrappedKey.isWrittenIn_of_decode? whole, WrappedKey.pair?_eq_some found⟩
  | pkcs1 =>
      rcases Option.map_eq_some_iff.mp read with ⟨key, whole, rfl⟩
      exact ⟨key, Rsa.PrivateKey.isWrittenIn_of_decode? whole, rfl⟩
  | sec1 =>
      rcases Option.bind_eq_some_iff.mp read with ⟨written, whole, found⟩
      exact ⟨written, EllipticCurveKey.isWrittenIn_of_decode? whole,
        EllipticCurveKey.findSome?_pairOn?_eq_some.mp found⟩

/-- The first encoding, in any order, in which octets are a key pair. -/
def findIn? (order : List KeyContainer) (octets : Octets) : Option (KeyContainer × KeyPair) :=
  order.findSome? fun container => (container.pair? octets).map (container, ·)

theorem findIn?_eq_find? {order : List KeyContainer} (complete : ∀ container, container ∈ order)
    (octets : Octets) : findIn? order octets = find? octets := by
  cases found : findIn? order octets with
  | none =>
      have refused := List.findSome?_eq_none_iff.mp found
      exact (List.findSome?_eq_none_iff.mpr fun container _ =>
        refused container (complete container)).symm
  | some result =>
      rcases result with ⟨container, pair⟩
      rcases List.exists_of_findSome?_eq_some found with ⟨other, _, read⟩
      rcases Option.map_eq_some_iff.mp read with ⟨otherPair, read, same⟩
      cases same
      exact (find?_eq_some.mpr read).symm

end KeyContainer

/-- A key that is not wrapped is on a curve exactly if that is the first one it fits; so it is, if
the key is written for the curve and tells it. -/
theorem KeyContainer.curve_of_sec1 {octets : Octets} {pair : KeyPair} {written : EllipticCurveKey}
    (read : KeyContainer.sec1.pair? octets = some pair) (isWritten : written.IsWrittenIn octets)
    (curve : NistCurve) :
    ((∃ scalar, pair = .ecdsa curve scalar) ↔
        ∃ scalar : NistCurve.Scalar curve, written.FitsFirst scalar) ∧
      ∀ scalar : NistCurve.Scalar curve, written.Fits scalar → written.TellsCurve curve →
        pair = .ecdsa curve scalar := by
  rw [pair?, isWritten.read] at read
  have first : ∀ scalar : NistCurve.Scalar curve, written.FitsFirst scalar →
      pair = .ecdsa curve scalar := by
    intro scalar fitsFirst
    have found := EllipticCurveKey.findSome?_pairOn?_eq_some.mpr ⟨curve, scalar, fitsFirst, rfl⟩
    exact Option.some.inj (read.symm.trans found)
  refine ⟨⟨?_, ?_⟩, fun scalar fits tells => first scalar (fits.fitsFirst tells)⟩
  · rintro ⟨scalar, rfl⟩
    rcases EllipticCurveKey.findSome?_pairOn?_eq_some.mp read with ⟨_, found, fitsFirst, same⟩
    cases same
    exact ⟨scalar, fitsFirst⟩
  · rintro ⟨scalar, fitsFirst⟩
    exact ⟨scalar, first scalar fitsFirst⟩

/-- A key pair that is loaded is the one that the octets of the first block state, and its numbers
belong together.  The octets are a key pair in no other encoding, and the order in which the
encodings are tried does not matter.  Only the name of a curve within an elliptic-curve key that is
not wrapped is not looked at: the curve is the first one that the key fits, and so it is the one
that the key is written for if the key tells it. -/
theorem Key.load_is_stated {file : Octets} {environment after : Environment} {key : Key}
    (loaded : load file environment = .ok key after) :
    (∀ order octets, (∀ container, container ∈ order) →
      KeyContainer.findIn? order octets = KeyContainer.find? octets) ∧
    ∃ octets container, Pem.find? file = some octets ∧
      after = { environment with events := environment.events ++ [.loadedKey container] } ∧
      container.States octets key.pair ∧ key.pair.HasSoundNumbers ∧
      (∀ (other : KeyContainer) otherPair, other.pair? octets = some otherPair →
        other = container ∧ otherPair = key.pair) ∧
      ∀ written : EllipticCurveKey, container = .sec1 → written.IsWrittenIn octets →
        ∀ curve : NistCurve,
          ((∃ scalar, key.pair = .ecdsa curve scalar) ↔
              ∃ scalar : NistCurve.Scalar curve, written.FitsFirst scalar) ∧
            ∀ scalar : NistCurve.Scalar curve, written.Fits scalar → written.TellsCurve curve →
              key.pair = .ecdsa curve scalar := by
  refine ⟨fun order octets complete => KeyContainer.findIn?_eq_find? complete octets, ?_⟩
  rcases load_eq_ok.mp loaded with ⟨container, known, rfl⟩
  rcases read_eq_ok.mp known with ⟨_, octets, block, read⟩
  refine ⟨octets, container, block, rfl, KeyContainer.states_of_pair? read,
    key.pair.hasSoundNumbers, ?_, ?_⟩
  · intro other otherPair otherRead
    obtain rfl := KeyContainer.eq_of_pair? read otherRead
    exact ⟨rfl, Option.some.inj (otherRead.symm.trans read)⟩
  · rintro written rfl isWritten curve
    exact KeyContainer.curve_of_sec1 read isWritten curve

/-- The file of the least scalar of the smallest curve states it. -/
theorem Key.load_leastScalar_is_stated : ∃ key octets,
    load (KeyPair.ecdsa .p224 ⟨1, by decide⟩).file ⟨⟨fun _ => 0, 0⟩, []⟩ =
        .ok key ⟨⟨fun _ => 0, 0⟩, [.loadedKey .sec1]⟩ ∧
      key.pair = .ecdsa .p224 ⟨1, by decide⟩ ∧ KeyContainer.sec1.States octets key.pair := by
  have short : (KeyPair.ecdsa .p224 ⟨1, by decide⟩).octets.length ≤ Der.maxLength :=
    (EllipticCurveKey.length_encode_ofScalar_le _).trans (by decide)
  have loaded := load_file short ⟨⟨fun _ => 0, 0⟩, []⟩
  rcases Key.load_is_stated loaded with ⟨_, octets, container, _, reported, states, _⟩
  obtain rfl : container = .sec1 := by
    cases container <;> first | rfl | cases reported
  exact ⟨_, octets, loaded, rfl, states⟩

/-! ### A key that names a curve without keys -/

/-- The identifier 1.3.132.0.10 of a curve that there are no keys on. -/
def foreignCurve : Oid := ⟨[0x2b, 0x81, 0x04, 0x00, 0x0a], by decide⟩

/-- The scalar of the key. -/
def foreignScalar : NistCurve.Scalar .p256 :=
  ⟨0x6055a65aa74cb6698e2ee5f33bea71f5272331a6151ebee4a5db2997164a2f5f, by decide⟩

/-- A key that names the curve. -/
def foreignKey : EllipticCurveKey :=
  ⟨NistCurve.p256.coordinate foreignScalar.val, some foreignCurve, none⟩

/-- The octets of the key. -/
def foreignOctets : Octets :=
  Der.encode Der.Tag.sequence (Der.encodeUnsigned EllipticCurveKey.version ++
    Der.encodeOctetString foreignKey.scalar ++ EllipticCurveKey.nameField foreignCurve)

theorem decode?_foreignOctets : EllipticCurveKey.decode? foreignOctets = some foreignKey := by
  decide +kernel

/-- The key is loaded on a curve that it does not name. -/
theorem foreignKey_is_loaded : ∃ key,
    Key.load (Pem.encode "EC PRIVATE KEY" foreignOctets) ⟨⟨fun _ => 0, 0⟩, []⟩ =
        .ok key ⟨⟨fun _ => 0, 0⟩, [.loadedKey .sec1]⟩ ∧
      key.pair = .ecdsa .p256 foreignScalar ∧ foreignKey.IsWrittenIn foreignOctets ∧
        foreignKey.curve = some foreignCurve ∧ foreignCurve ≠ NistCurve.p256.oid := by
  have noPoint : ∀ octets, foreignKey.publicPoint ≠ some octets :=
    fun octets => (Option.some_ne_none octets).symm
  have fits : foreignKey.Fits foreignScalar :=
    ⟨by decide +kernel, by decide +kernel, by decide +kernel,
      fun octets written => absurd written (noPoint octets)⟩
  have first : ∀ prior ∈ NistCurve.p256.earlier, ∀ scalar : NistCurve.Scalar prior,
      ¬ foreignKey.Fits scalar := fun _ before => absurd before List.not_mem_nil
  have read : KeyContainer.sec1.pair? foreignOctets = some (.ecdsa .p256 foreignScalar) := by
    rw [KeyContainer.pair?, decode?_foreignOctets]
    exact EllipticCurveKey.findSome?_pairOn?_eq_some.mpr
      ⟨_, foreignScalar, ⟨fits, first⟩, rfl⟩
  exact ⟨_, Key.load_encode (KeyPair.ecdsa .p256 foreignScalar).isLabel (Der.encode_ne_nil _ _)
      (KeyContainer.find?_eq_some.mpr read) _, rfl,
    EllipticCurveKey.isWrittenIn_of_decode? decode?_foreignOctets, rfl, by decide⟩

end CertAuthority
