import CertAuthority.Proofs.DeclaredKey
import CertAuthority.Proofs.Issuance.Stages
import CertAuthority.Proofs.Key.Provenance
import CertAuthority.Proofs.SignedOctets

/-!
# Pairing certificates with their keys

A certificate is paired with a key if the information about its public key is
the one that is written for the key.  There are other ways to write the same
key: a point by one coordinate, an algorithm with other parameters, or bits of
which some are not used.  So the certificates that are paired with a key are
those that certify it in the plain form (`X509.PublicKeyInfo.IsPlain`), and not
all that certify it.
-/

namespace CertAuthority

open X509 (AlgorithmIdentifier Certificate PublicKeyInfo)

/-! ## Written keys -/

theorem Rsa.PublicKey.exact_numbers : Der.Exact decodeNumbers fun key =>
    Der.encodeUnsigned key.modulus ++ Der.encodeUnsigned key.exponent := by
  intro octets key rest read
  rcases Option.bind_eq_some_iff.mp read with ⟨⟨modulus, afterModulus⟩, modulusRead, read⟩
  rcases Option.bind_eq_some_iff.mp read with ⟨⟨exponent, last⟩, exponentRead, read⟩
  cases read
  rw [Der.exact_unsigned _ _ _ modulusRead, Der.exact_unsigned _ _ _ exponentRead,
    List.append_assoc]

/-- An RSA key is read only from the octets that are written for it. -/
theorem Rsa.PublicKey.eq_encode_of_decode? {octets : Octets} {key : Rsa.PublicKey}
    (read : decode? octets = some key) : octets = key.encode := by
  rcases Option.bind_eq_some_iff.mp read with ⟨found, whole, accepted⟩
  simp only [Option.ite_none_right_eq_some, Option.some.injEq] at accepted
  rcases accepted with ⟨_, rfl⟩
  exact exact_numbers.nested.of_complete whole

/-- A point is read from both coordinates only as they are written for it. -/
theorem NistCurve.eq_encodePoint_of_decodePoint? {curve : NistCurve} {octets : Octets}
    {point : Curve.Point} (read : curve.decodePoint? octets = some point)
    (whole : octets.head? = some 0x04) : octets = curve.encodePoint point := by
  cases octets with
  | nil => cases read
  | cons form coordinates =>
      obtain rfl : form = 0x04 := Option.some.inj whole
      simp only [decodePoint?, if_true, Option.ite_none_right_eq_some, Option.some.injEq] at read
      rcases read with ⟨⟨length, _, _, _⟩, rfl⟩
      have first : (coordinates.take curve.params.width).length = curve.params.width := by
        rw [List.length_take]
        omega
      have second : (coordinates.drop curve.params.width).length = curve.params.width := by
        rw [List.length_drop]
        omega
      have abscissa := Octets.ofNatPadded_toNat (coordinates.take curve.params.width)
      have ordinate := Octets.ofNatPadded_toNat (coordinates.drop curve.params.width)
      rw [first] at abscissa
      rw [second] at ordinate
      rw [encodePoint, coordinate, coordinate, abscissa, ordinate, List.take_append_drop]

/-! ## Loaded keys -/

/-- The public key of an RSA key that was read is not too long to be read: six of the other numbers
take as much room as the length of the sequence. -/
theorem Rsa.PrivateKey.length_encode_publicKey_le {octets : Octets} {key : Rsa.PrivateKey}
    (read : decode? octets = some key) : key.publicKey.encode.length ≤ Der.maxLength := by
  rcases Option.bind_eq_some_iff.mp read with ⟨numbers, whole, found⟩
  have room := Der.exact_unsigned.length_flatMap_le (Der.complete_eq_some.mp whole)
  split at found
  · rename_i version modulus exponent privateExponent first second firstExponent secondExponent
      coefficient
    simp only [Option.ite_none_right_eq_some] at found
    have publicKey : key.publicKey = ⟨modulus, exponent⟩ := (ofNumbers?_eq_some found.2).1
    have written : ∀ value, Der.encodeUnsigned value ≠ [] := fun _ => Der.encode_ne_nil _ _
    have others : _ ≤ ([privateExponent, first, second, firstExponent, secondExponent,
        coefficient].flatMap Der.encodeUnsigned).length :=
      Der.length_le_flatMap fun value _ => written value
    simp only [List.length_cons, List.length_nil] at others
    rw [List.flatMap_cons, List.flatMap_cons, List.flatMap_cons, List.length_append,
      List.length_append, List.length_append] at room
    have content : (Der.encodeUnsigned modulus ++ Der.encodeUnsigned exponent).length + 6 ≤
        Der.maxLength := by
      rw [List.length_append]
      omega
    rw [publicKey]
    exact (Der.length_encode_le Der.Tag.sequence (Nat.le_of_add_right_le content)).trans content
  · cases found

namespace KeyPair

/-- The bits that are written for the public key of a key pair are read as that key. -/
def IsReadBack (pair : KeyPair) : Prop :=
  pair.publicKey.IsReadFrom pair.publicKeyInfo.key.octets

theorem isReadBack_ecdsa (curve : NistCurve) (scalar : NistCurve.Scalar curve) :
    (ecdsa curve scalar).IsReadBack :=
  scalar.decodePoint?_publicPoint

theorem isReadBack_of_decode? {octets : Octets} {key : Rsa.PrivateKey}
    (read : Rsa.PrivateKey.decode? octets = some key) : (rsa key).IsReadBack :=
  Rsa.PublicKey.decode?_encode key.isSound (Rsa.PrivateKey.length_encode_publicKey_le read)

end KeyPair

theorem WrappedKey.isReadBack_of_rsaPair? {wrapped : WrappedKey} {pair : KeyPair}
    (found : wrapped.rsaPair? = some pair) : pair.IsReadBack := by
  simp only [rsaPair?, Option.ite_none_right_eq_some, Option.map_eq_some_iff] at found
  rcases found with ⟨_, key, read, rfl⟩
  exact KeyPair.isReadBack_of_decode? read

theorem EllipticCurveKey.isReadBack_of_pairOn? {written : EllipticCurveKey} {curve : NistCurve}
    {pair : KeyPair} (found : written.pairOn? curve = some pair) : pair.IsReadBack := by
  rcases pairOn?_eq_some.mp found with ⟨scalar, _, rfl⟩
  exact KeyPair.isReadBack_ecdsa curve scalar

theorem KeyContainer.isReadBack_of_pair? {container : KeyContainer} {octets : Octets}
    {pair : KeyPair} (read : container.pair? octets = some pair) : pair.IsReadBack := by
  cases container with
  | pkcs8 =>
      rcases Option.bind_eq_some_iff.mp read with ⟨wrapped, _, found⟩
      rcases WrappedKey.pair?_cases found with found | ⟨curve, found⟩
      · exact WrappedKey.isReadBack_of_rsaPair? found
      · simp only [WrappedKey.ellipticCurvePair?, Option.ite_none_right_eq_some] at found
        rcases Option.bind_eq_some_iff.mp found.2 with ⟨written, _, found⟩
        exact EllipticCurveKey.isReadBack_of_pairOn? found
  | pkcs1 =>
      rcases Option.map_eq_some_iff.mp read with ⟨key, whole, rfl⟩
      exact KeyPair.isReadBack_of_decode? whole
  | sec1 =>
      rcases Option.bind_eq_some_iff.mp read with ⟨written, _, found⟩
      rcases List.exists_of_findSome?_eq_some found with ⟨curve, _, found⟩
      exact EllipticCurveKey.isReadBack_of_pairOn? found

/-- What is written for the public key of a loaded key is read as that key. -/
theorem Key.isReadBack_of_load {file : Octets} {environment after : Environment} {key : Key}
    (loaded : load file environment = .ok key after) : key.pair.IsReadBack := by
  rcases load_eq_ok.mp loaded with ⟨container, known, _⟩
  rcases read_eq_ok.mp known with ⟨_, octets, _, read⟩
  exact KeyContainer.isReadBack_of_pair? read

/-! ## The plain form -/

namespace X509.PublicKeyInfo

/-- A public key is written in the plain form: no bits are unused, an RSA key has the empty
parameters, and a point has both coordinates. -/
def IsPlain (info : PublicKeyInfo) : Prop :=
  info.key.unused = 0 ∧
    (info.algorithm.oid = rsaOid → info.algorithm.parameters = some Der.Any.null) ∧
      (info.algorithm.oid = ellipticCurveOid → info.key.octets.head? = some 0x04)

instance (info : PublicKeyInfo) : Decidable info.IsPlain :=
  inferInstanceAs (Decidable (_ ∧ _))

theorem isPlain_publicKeyInfo (pair : KeyPair) : pair.publicKeyInfo.IsPlain := by
  have apart : rsaOid ≠ ellipticCurveOid := by decide
  cases pair with
  | rsa key => exact ⟨rfl, fun _ => rfl, fun onCurve => absurd onCurve apart⟩
  | ecdsa curve scalar =>
      refine ⟨rfl, fun isRsa => absurd isRsa.symm apart, fun _ => ?_⟩
      cases point : scalar.publicPoint with
      | infinity => exact absurd point scalar.publicPoint_ne_infinity
      | affine x y =>
          simp only [KeyPair.publicKeyInfo, point]
          rfl

/-- An algorithm and octets of which no bits are unused are all that there is. -/
theorem eq_of_octets {info : PublicKeyInfo} {algorithm : AlgorithmIdentifier} {octets : Octets}
    (sameAlgorithm : info.algorithm = algorithm) (whole : info.key.unused = 0)
    (sameOctets : info.key.octets = octets) :
    info = ⟨algorithm, Der.BitString.ofOctets octets⟩ := by
  rcases info with ⟨found, unused, foundOctets, fitting⟩
  obtain rfl : found = algorithm := sameAlgorithm
  obtain rfl : unused = 0 := whole
  obtain rfl : foundOctets = octets := sameOctets
  rfl

/-- Information about a public key in the plain form is the one that is written for the key. -/
theorem eq_of_isPlain {info : PublicKeyInfo} {pair : KeyPair}
    (declared : info.declaredKey? = some pair.publicKey) (plain : info.IsPlain) :
    info = pair.publicKeyInfo := by
  rcases declaredKey?_eq_some.mp declared with ⟨declares, read⟩
  rcases plain with ⟨whole, nullParameters, uncompressed⟩
  cases pair with
  | rsa key =>
      exact eq_of_octets (AlgorithmIdentifier.ext declares (nullParameters declares)) whole
        (Rsa.PublicKey.eq_encode_of_decode? read)
  | ecdsa curve scalar =>
      exact eq_of_octets (WrappedKey.algorithm_eq_of_parametersOid? declares.1 declares.2) whole
        (NistCurve.eq_encodePoint_of_decodePoint? read (uncompressed declares.1))

/-- What is written for a key that is read back is what certifies it in the plain form. -/
theorem publicKeyInfo_eq_iff {info : PublicKeyInfo} {pair : KeyPair} (readBack : pair.IsReadBack) :
    pair.publicKeyInfo = info ↔ info.declaredKey? = some pair.publicKey ∧ info.IsPlain := by
  constructor
  · rintro rfl
    exact ⟨declaredKey?_eq_some.mpr ⟨pair.declares_publicKey, readBack⟩, isPlain_publicKeyInfo pair⟩
  · rintro ⟨declared, plain⟩
    exact (eq_of_isPlain declared plain).symm

end X509.PublicKeyInfo

/-! ## Pairs -/

namespace Authority

/-- A certificate and a key are paired exactly if the certificate certifies the key. -/
theorem pair_self_eq_ok {certificate : Certificate} {key : Key} :
    pair certificate key = .ok ⟨certificate, key⟩ ↔
      key.publicKeyInfo = certificate.tbs.publicKey :=
  pair_eq_ok.trans (by simp only [true_and, IsCertified])

end Authority

/-! ### The generator of a curve -/

/-- The pair whose public point is the generator of the curve of 256 bits. -/
def generatorPair : KeyPair :=
  .ecdsa .p256 (Ecdsa.smallScalar .p256 false)

/-- The key of the generator with its file. -/
def generatorKey : Key :=
  Key.ofPair generatorPair generatorPair.file

theorem load_generatorKey : ∃ after,
    Key.load generatorPair.file exampleEnvironment = .ok generatorKey after := by
  have short : generatorPair.octets.length ≤ Der.maxLength :=
    (EllipticCurveKey.length_encode_ofScalar_le _).trans (by decide)
  exact ⟨_, Key.load_file short exampleEnvironment⟩

/-- A certificate of a public key, with a signature that is empty. -/
def certificateOf (publicKey : PublicKeyInfo) : Certificate :=
  { exampleCertificate [] with tbs := { exampleTbs with publicKey } }

/-- The generator with one coordinate and the parity of the other. -/
def compressedGenerator : PublicKeyInfo :=
  ⟨NistCurve.p256.keyIdentifier, Der.BitString.ofOctets
    (0x03 :: NistCurve.p256.coordinate NistCurve.p256.params.generatorX)⟩

/-! ### Pairs of a certificate and its key -/

namespace Authority

/-- A certificate is paired with a loaded key exactly if it certifies the public part of the key in
the plain form, and refused as the certificate of another key otherwise. -/
theorem pair_iff_certified {file : Octets} {environment after : Environment} {key : Key}
    (loaded : Key.load file environment = .ok key after) (certificate : Certificate) :
    (pair certificate key = .ok ⟨certificate, key⟩ ↔
        certificate.tbs.publicKey.declaredKey? = some key.pair.publicKey ∧
          certificate.tbs.publicKey.IsPlain) ∧
      (pair certificate key = .error .keyMismatch ↔
        ¬ (certificate.tbs.publicKey.declaredKey? = some key.pair.publicKey ∧
          certificate.tbs.publicKey.IsPlain)) := by
  have certified : key.publicKeyInfo = certificate.tbs.publicKey ↔ _ :=
    PublicKeyInfo.publicKeyInfo_eq_iff (Key.isReadBack_of_load loaded)
  refine ⟨pair_self_eq_ok.trans certified, ?_⟩
  rw [pair_eq_error, and_iff_left rfl]
  exact certified.not

end Authority

/-- The key of the generator is paired with a certificate of both its coordinates. -/
theorem pair_generatorKey :
    Authority.pair (certificateOf generatorPair.publicKeyInfo) generatorKey =
      .ok ⟨certificateOf generatorPair.publicKeyInfo, generatorKey⟩ := by
  rcases load_generatorKey with ⟨after, loaded⟩
  exact (Authority.pair_iff_certified loaded _).1.mpr ⟨by decide +kernel, by decide +kernel⟩

/-- A certificate of one coordinate and the parity of the other certifies the same key, and is
refused. -/
theorem compressedGenerator_is_refused :
    (∃ after, Key.load generatorPair.file exampleEnvironment = .ok generatorKey after) ∧
      Certificate.ofOctets (certificateOf compressedGenerator).encode =
          .ok (certificateOf compressedGenerator) ∧
        (certificateOf compressedGenerator).tbs.publicKey.declaredKey? =
            some generatorKey.pair.publicKey ∧
          Authority.pair (certificateOf compressedGenerator) generatorKey =
            .error .keyMismatch := by
  refine ⟨load_generatorKey, by decide +kernel, by decide +kernel, ?_⟩
  exact Authority.pair_eq_error.mpr ⟨by decide +kernel, rfl⟩

end CertAuthority
