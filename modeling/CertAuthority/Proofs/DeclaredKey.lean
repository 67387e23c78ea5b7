import CertAuthority.Proofs.Der.Exact
import CertAuthority.Proofs.Verification

/-!
# Declared public keys

A certificate declares its public key by the identifier of an algorithm, to
which the parameters add a curve, and the bits of the key are read as that key
(`PublicKeyInfo.declaredKey?`).  No bits can be read as keys of two kinds, or as
points of two curves.

A signature is checked with the key that its own algorithm leads to, which is
read from the same bits whatever is declared.  So it is the declared key exactly
if the bits can be read as one.
-/

namespace CertAuthority

open X509 (Certificate PublicKeyInfo)

/-- A key that signatures are checked with. -/
inductive PublicKey where
  | rsa (key : Rsa.PublicKey)
  | ecdsa (curve : NistCurve) (point : Curve.Point)
deriving DecidableEq

namespace PublicKey

/-- Whether octets are a signature of a message, made with an algorithm for the kind of key. -/
def verify (key : PublicKey) (algorithm : SignatureAlgorithm) (message signature : Octets) :
    Bool :=
  match key with
  | rsa key => algorithm.isRsa && key.verify algorithm.hash message signature
  | ecdsa curve point =>
      !algorithm.isRsa && (Ecdsa.Signature.decode? curve signature).any
        (Ecdsa.verify curve point (algorithm.hash.digest message))

/-- Whether signatures are not checked with a key because of its modulus. -/
def isTooLong : PublicKey → Bool
  | rsa key => maxCheckedRsaBits < key.bitLength
  | ecdsa _ _ => false

/-- Octets that a key is read from. -/
def IsReadFrom (octets : Octets) : PublicKey → Prop
  | rsa key => Rsa.PublicKey.decode? octets = some key
  | ecdsa curve point => curve.decodePoint? octets = some point

end PublicKey

/-! ## One key in octets -/

theorem Rsa.PublicKey.head?_of_decode? {octets : Octets} {key : Rsa.PublicKey}
    (read : decode? octets = some key) : octets.head? = some Der.Tag.sequence.octet := by
  rcases Option.bind_eq_some_iff.mp read with ⟨found, whole, _⟩
  rcases Der.exists_content_of_complete whole with ⟨content, tagged, _⟩
  exact Der.head?_of_decodeTagged (Der.complete_eq_some.mp tagged)

/-- What is read as a point has one of two lengths and begins with an octet for its form. -/
theorem NistCurve.shape_of_decodePoint? {curve : NistCurve} {octets : Octets} {point : Curve.Point}
    (read : curve.decodePoint? octets = some point) :
    octets.head? ≠ some Der.Tag.sequence.octet ∧
      (octets.length = 2 * curve.params.width + 1 ∨ octets.length = curve.params.width + 1) := by
  cases octets with
  | nil => cases read
  | cons form coordinates =>
      have shape : (form = 0x04 ∧ coordinates.length = 2 * curve.params.width) ∨
          ((form = 0x02 ∨ form = 0x03 ∨ form = 0x05) ∧
            coordinates.length = curve.params.width) := by
        simp only [decodePoint?] at read
        split at read
        · rename_i whole
          split at read
          · rename_i fits
            exact .inl ⟨whole, fits.1⟩
          · cases read
        · split at read
          · cases read
          · rename_i fits
            rw [not_or, not_not] at fits
            refine .inr ⟨?_, fits.1⟩
            by_contra other
            rw [not_or, not_or] at other
            rw [if_neg other.1, if_neg other.2.1, if_neg other.2.2] at read
            cases read
      rw [List.head?_cons, List.length_cons]
      rcases shape with ⟨rfl, length⟩ | ⟨rfl | rfl | rfl, length⟩
      · exact ⟨by decide, .inl (congrArg (· + 1) length)⟩
      all_goals exact ⟨by decide, .inr (congrArg (· + 1) length)⟩

/-- The lengths of points of different curves are different. -/
theorem NistCurve.eq_of_decodePoint? {curve other : NistCurve} {octets : Octets}
    {point otherPoint : Curve.Point} (read : curve.decodePoint? octets = some point)
    (otherRead : other.decodePoint? octets = some otherPoint) : curve = other := by
  have length := (shape_of_decodePoint? read).2
  have otherLength := (shape_of_decodePoint? otherRead).2
  by_contra different
  have apart := widths_apart different
  omega

/-- No octets are read as two keys. -/
theorem PublicKey.IsReadFrom.unique {octets : Octets} {key other : PublicKey}
    (read : key.IsReadFrom octets) (otherRead : other.IsReadFrom octets) : key = other := by
  cases key with
  | rsa key =>
      cases other with
      | rsa other => exact congrArg rsa (Option.some.inj (read.symm.trans otherRead))
      | ecdsa curve point =>
          exact absurd (Rsa.PublicKey.head?_of_decode? read)
            (NistCurve.shape_of_decodePoint? otherRead).1
  | ecdsa curve point =>
      cases other with
      | rsa other =>
          exact absurd (Rsa.PublicKey.head?_of_decode? otherRead)
            (NistCurve.shape_of_decodePoint? read).1
      | ecdsa other otherPoint =>
          rcases NistCurve.eq_of_decodePoint? read otherRead with rfl
          exact congrArg (ecdsa curve) (Option.some.inj (read.symm.trans otherRead))

/-! ## The declared key -/

namespace X509.PublicKeyInfo

/-- Whether the algorithm and its parameters are those of a key. -/
def Declares (info : PublicKeyInfo) : PublicKey → Prop
  | .rsa _ => info.algorithm.oid = rsaOid
  | .ecdsa curve _ =>
      info.algorithm.oid = ellipticCurveOid ∧ info.algorithm.parametersOid? = some curve.oid

/-- The key of the declared kind and curve that the bits are. -/
def declaredKey? (info : PublicKeyInfo) : Option PublicKey :=
  if info.algorithm.oid = rsaOid then (Rsa.PublicKey.decode? info.key.octets).map .rsa
  else if info.algorithm.oid = ellipticCurveOid then do
    let curve ← NistCurve.all.find? (some ·.oid = info.algorithm.parametersOid?)
    let point ← curve.decodePoint? info.key.octets
    return .ecdsa curve point
  else none

/-- The key of the kind and curve that a signature algorithm leads to. -/
def keyFor? (info : PublicKeyInfo) (algorithm : SignatureAlgorithm) : Option PublicKey :=
  if algorithm.isRsa then (Rsa.PublicKey.decode? info.key.octets).map .rsa
  else do
    let curve := verificationCurve algorithm info.algorithm.parametersOid?
    let point ← curve.decodePoint? info.key.octets
    return .ecdsa curve point

end X509.PublicKeyInfo

theorem NistCurve.find?_all_oid (curve : NistCurve) :
    all.find? (some ·.oid = some curve.oid) = some curve := by
  cases curve <;> decide

namespace X509.PublicKeyInfo

variable {info : PublicKeyInfo} {key : PublicKey}

/-- The declared key is the one that is read from the bits as it is declared. -/
theorem declaredKey?_eq_some :
    info.declaredKey? = some key ↔ info.Declares key ∧ key.IsReadFrom info.key.octets := by
  unfold declaredKey?
  constructor
  · intro found
    split at found
    · rename_i declared
      rcases Option.map_eq_some_iff.mp found with ⟨rsaKey, read, rfl⟩
      exact ⟨declared, read⟩
    · split at found
      · rename_i declared
        rcases Option.bind_eq_some_iff.mp found with ⟨curve, named, found⟩
        rcases Option.bind_eq_some_iff.mp found with ⟨point, read, found⟩
        rcases Option.some.inj found with rfl
        have parameters := List.find?_some named
        rw [decide_eq_true_eq] at parameters
        exact ⟨⟨declared, parameters.symm⟩, read⟩
      · cases found
  · rintro ⟨declared, read⟩
    cases key with
    | rsa key => exact (if_pos declared).trans (Option.map_eq_some_iff.mpr ⟨key, read, rfl⟩)
    | ecdsa curve point =>
        have notRsa : info.algorithm.oid ≠ rsaOid := by
          rw [declared.1]
          decide
        rw [if_neg notRsa, if_pos declared.1, declared.2]
        exact Option.bind_eq_some_iff.mpr ⟨curve, curve.find?_all_oid,
          Option.bind_eq_some_iff.mpr ⟨point, read, rfl⟩⟩

/-- The key that a signature algorithm leads to is of its kind, and is read from the bits. -/
theorem keyFor?_eq_some {algorithm : SignatureAlgorithm} :
    info.keyFor? algorithm = some key ↔
      key.IsReadFrom info.key.octets ∧
        match key with
        | .rsa _ => algorithm.isRsa = true
        | .ecdsa curve _ => algorithm.isRsa = false ∧
            curve = verificationCurve algorithm info.algorithm.parametersOid? := by
  cases kind : algorithm.isRsa with
  | true =>
      rw [keyFor?, if_pos kind, Option.map_eq_some_iff]
      cases key with
      | rsa key => simp [PublicKey.IsReadFrom]
      | ecdsa curve point => simp
  | false =>
      rw [keyFor?, if_neg (Bool.eq_false_iff.mp kind)]
      refine Option.bind_eq_some_iff.trans ?_
      cases key with
      | rsa key => simp
      | ecdsa curve point =>
          constructor
          · rintro ⟨found, read, same⟩
            cases Option.some.inj same
            exact ⟨read, rfl, rfl⟩
          · rintro ⟨read, _, rfl⟩
            exact ⟨point, read, rfl⟩

end X509.PublicKeyInfo

/-! ## Keys that signatures are checked with -/

theorem verifyRsa_eq_ok {hash : Hash.Algorithm} {octets message signature : Octets} :
    verifyRsa hash octets message signature = .ok () ↔
      ∃ key, Rsa.PublicKey.decode? octets = some key ∧ key.bitLength ≤ maxCheckedRsaBits ∧
        key.verify hash message signature = true := by
  rw [verifyRsa]
  cases Rsa.PublicKey.decode? octets with
  | none => simp
  | some key =>
      rw [orError_some_bind]
      split
      · rename_i long
        simp [long]
      · rename_i short
        split
        · rename_i valid
          simpa [valid] using short
        · rename_i invalid
          simp [invalid]

theorem verifyEcdsa_eq_ok {curve : NistCurve} {hash : Hash.Algorithm}
    {octets message signature : Octets} :
    verifyEcdsa curve hash octets message signature = .ok () ↔
      ∃ point, curve.decodePoint? octets = some point ∧
        (Ecdsa.Signature.decode? curve signature).any
          (Ecdsa.verify curve point (hash.digest message)) = true := by
  rw [verifyEcdsa]
  cases curve.decodePoint? octets with
  | none => simp
  | some point =>
      rw [orError_some_bind]
      cases Ecdsa.Signature.decode? curve signature with
      | none => simp
      | some pair => simp

/-- A signature is accepted if it is one of the key that its algorithm leads to, unless the modulus
of that key is too long. -/
theorem verifySignature_eq_ok {algorithm : SignatureAlgorithm} {info : PublicKeyInfo}
    {message signature : Octets} :
    verifySignature algorithm info message signature = .ok () ↔
      ∃ key, info.keyFor? algorithm = some key ∧ key.isTooLong = false ∧
        key.verify algorithm message signature = true := by
  simp only [PublicKeyInfo.keyFor?_eq_some]
  rw [verifySignature]
  cases kind : algorithm.isRsa with
  | true =>
      rw [if_pos rfl, verifyRsa_eq_ok]
      constructor
      · rintro ⟨key, read, short, valid⟩
        exact ⟨.rsa key, ⟨read, rfl⟩, decide_eq_false short.not_gt,
          by simp [PublicKey.verify, kind, valid]⟩
      · rintro ⟨key, ⟨read, ofKind⟩, short, valid⟩
        cases key with
        | rsa key =>
            simp only [PublicKey.verify, kind, Bool.true_and] at valid
            exact ⟨key, read, Nat.le_of_not_lt (of_decide_eq_false short), valid⟩
        | ecdsa curve point => cases ofKind.1
  | false =>
      rw [if_neg Bool.false_ne_true, verifyEcdsa_eq_ok]
      constructor
      · rintro ⟨point, read, valid⟩
        exact ⟨.ecdsa _ point, ⟨read, rfl, rfl⟩, rfl, by simp [PublicKey.verify, kind, valid]⟩
      · rintro ⟨key, ⟨read, ofKind⟩, _, valid⟩
        cases key with
        | rsa key => cases ofKind
        | ecdsa curve point =>
            rcases ofKind with ⟨_, rfl⟩
            simp only [PublicKey.verify, kind, Bool.not_false, Bool.true_and] at valid
            exact ⟨point, read, valid⟩

/-- A declaration matters to no check but that of points on the smallest curve. -/
theorem X509.PublicKeyInfo.keyFor?_congr {info other : PublicKeyInfo} (key : info.key = other.key)
    (smallest : info.algorithm.parametersOid? = some NistCurve.p224.oid ↔
      other.algorithm.parametersOid? = some NistCurve.p224.oid)
    (algorithm : SignatureAlgorithm) : info.keyFor? algorithm = other.keyFor? algorithm := by
  have curve : verificationCurve algorithm info.algorithm.parametersOid? =
      verificationCurve algorithm other.algorithm.parametersOid? := by
    simp only [verificationCurve, smallest]
  simp only [keyFor?, key, curve]

/-! ## Keys of key pairs -/

theorem X509.PublicKeyInfo.octets_infix (info : PublicKeyInfo) :
    info.key.octets <:+: info.encode := by
  have bits : info.key.octets <:+: info.key.encode :=
    Der.infix_encode (List.suffix_cons _ _).isInfix
  exact Der.infix_encode (bits.trans (List.suffix_append _ _).isInfix)

namespace KeyPair

/-- The public part of a key pair. -/
def publicKey : KeyPair → PublicKey
  | rsa key => .rsa key.publicKey
  | ecdsa curve scalar => .ecdsa curve scalar.publicPoint

theorem declares_publicKey (pair : KeyPair) : pair.publicKeyInfo.Declares pair.publicKey := by
  cases pair with
  | rsa key => rfl
  | ecdsa curve scalar => exact ⟨rfl, curve.parametersOid?_keyIdentifier⟩

/-- The public key information of a key pair declares its public key. -/
theorem declaredKey?_publicKeyInfo {pair : KeyPair}
    (short : pair.publicKeyInfo.encode.length ≤ Der.maxLength) :
    pair.publicKeyInfo.declaredKey? = some pair.publicKey := by
  refine PublicKeyInfo.declaredKey?_eq_some.mpr ⟨pair.declares_publicKey, ?_⟩
  cases pair with
  | rsa key =>
      exact Rsa.PublicKey.decode?_encode key.isSound
        ((PublicKeyInfo.octets_infix (rsa key).publicKeyInfo).length_le.trans short)
  | ecdsa curve scalar => exact scalar.decodePoint?_publicPoint

/-- A signature of a key pair is one of its public key. -/
theorem verify_of_sign {pair : KeyPair} {message signature : Octets}
    {environment after : Environment}
    (signed : pair.sign message environment = .ok signature after) :
    pair.publicKey.verify pair.signatureAlgorithm message signature = true := by
  cases pair with
  | rsa key =>
      rw [sign_rsa, Operation.ofOption_eq_ok] at signed
      have valid := key.verify_of_sign? signed.1
      simp [publicKey, PublicKey.verify, signatureAlgorithm, isRsa_rsaSignatureAlgorithm, valid]
  | ecdsa curve scalar =>
      rcases exists_of_sign_ecdsa signed with ⟨nonce, made, found, rfl⟩
      have isEcdsa : curve.signatureAlgorithm.isRsa = false := by cases curve <;> rfl
      have valid := Ecdsa.verify_of_sign? found
      simp [publicKey, PublicKey.verify, signatureAlgorithm, isEcdsa,
        Ecdsa.Signature.decode?_encode found, valid]

end KeyPair

theorem Key.verify_of_sign {key : Key} {message signature : Octets}
    {environment after : Environment}
    (signed : key.sign message environment = .ok signature after) :
    key.pair.publicKey.verify key.signatureAlgorithm message signature = true := by
  rw [sign_eq] at signed
  rw [signatureAlgorithm_eq]
  exact KeyPair.verify_of_sign signed

/-! ## Accepted certificates -/

/-- A certificate is accepted with a key that is read from the bits in the certificate of the
issuer, by the kind and the curve that the algorithm of the signature leads to.  The issuer declares
that key exactly if the bits are a key as it is declared. -/
theorem X509.Certificate.verifyIssuedBy_checks_declared_key {certificate issuer : Certificate}
    (accepted : certificate.verifyIssuedBy issuer = .ok ()) :
    ∃ algorithm key,
      certificate.knownAlgorithm? = some algorithm ∧
        issuer.tbs.publicKey.keyFor? algorithm = some key ∧
          key.verify algorithm certificate.tbs.encode certificate.signature.octets = true ∧
            (issuer.tbs.publicKey.Declares key ↔ ∃ declared,
              issuer.tbs.publicKey.declaredKey? = some declared) := by
  rcases Except.bind_eq_ok.mp accepted with ⟨algorithm, known, accepted⟩
  rcases verifySignature_eq_ok.mp accepted with ⟨key, found, _, valid⟩
  have read := (PublicKeyInfo.keyFor?_eq_some.mp found).1
  refine ⟨algorithm, key, orError_eq_ok.mp known, found, valid, ?_, ?_⟩
  · intro declares
    exact ⟨key, PublicKeyInfo.declaredKey?_eq_some.mpr ⟨declares, read⟩⟩
  · rintro ⟨declared, stated⟩
    rcases PublicKeyInfo.declaredKey?_eq_some.mp stated with ⟨declares, otherRead⟩
    rcases otherRead.unique read with rfl
    exact declares

/-- A certificate of 2048 bits is accepted with the key that it declares. -/
theorem exampleIssuer_declares_its_key : ∃ issuer : Certificate,
    issuer.verifyIssuedBy issuer = .ok () ∧
      issuer.tbs.publicKey.declaredKey? = some (.rsa Rsa.usualKey.publicKey) ∧
        ∃ algorithm key, issuer.tbs.publicKey.keyFor? algorithm = some key ∧
          issuer.tbs.publicKey.Declares key := by
  rcases exists_usualIssuer with ⟨issuer, _, publicKey, accepted⟩
  have declared : issuer.tbs.publicKey.declaredKey? = some (.rsa Rsa.usualKey.publicKey) := by
    rw [publicKey]
    exact KeyPair.declaredKey?_publicKeyInfo (by decide +kernel)
  rcases Certificate.verifyIssuedBy_checks_declared_key accepted with
    ⟨algorithm, key, _, found, _, declares⟩
  exact ⟨issuer, accepted, declared, algorithm, key, found, declares.mpr ⟨_, declared⟩⟩

/-- The template with a public key that is declared to be on a curve, and is an RSA key. -/
def misdeclaredTemplate (key : Rsa.PrivateKey) : CertificateTemplate :=
  { exampleTemplate (.rsa key) with
    publicKey := ⟨NistCurve.p256.keyIdentifier, (KeyPair.rsa key).publicKeyInfo.key⟩ }

theorem verifyIssuedBy_misdeclaredTemplate {key : Rsa.PrivateKey}
    {environment after : Environment} {certificate : Certificate}
    (issued : (exampleIssuer (.rsa key)).issue (misdeclaredTemplate key) environment =
      .ok certificate after) (usable : ¬ (KeyPair.rsa key).IsUnchecked) :
    certificate.verifyIssuedBy certificate = .ok () ∧
      certificate.tbs.publicKey.algorithm.oid = ellipticCurveOid ∧
        ∃ algorithm, certificate.knownAlgorithm? = some algorithm ∧ algorithm.isRsa = true := by
  rcases Issuer.issue_eq_ok issued with ⟨issuance⟩
  rcases CertificateTemplate.toTbs_eq_ok issuance.stated with ⟨stated⟩
  have publicKey := stated.publicKey_eq
  have known : certificate.knownAlgorithm? =
      some (exampleIssuer (.rsa key)).key.signatureAlgorithm := by
    rw [Certificate.knownAlgorithm?, issuance.algorithm]
    exact SignatureAlgorithm.ofOid?_oid _
  have genuine := (Key.verifySignature_of_sign issuance.signed).trans (if_neg usable)
  have onCurve : NistCurve.p256.keyIdentifier.parametersOid? ≠ some NistCurve.p224.oid := by decide
  have onNone : rsaKeyIdentifier.parametersOid? ≠ some NistCurve.p224.oid := by decide
  have sameKey : ∀ algorithm, (misdeclaredTemplate key).publicKey.keyFor? algorithm =
      (KeyPair.rsa key).publicKeyInfo.keyFor? algorithm :=
    PublicKeyInfo.keyFor?_congr rfl (iff_of_false onCurve onNone)
  have isRsa : (exampleIssuer (.rsa key)).key.signatureAlgorithm.isRsa = true := by
    rw [Key.signatureAlgorithm_eq]
    exact KeyPair.isRsa_rsaSignatureAlgorithm _
  refine ⟨?_, congrArg (·.algorithm.oid) publicKey, _, known, isRsa⟩
  rw [Certificate.verifyIssuedBy, known, orError_some_bind, publicKey, issuance.signature_eq,
    verifySignature_eq_ok, sameKey]
  exact verifySignature_eq_ok.mp genuine

/-- A certificate is accepted with an RSA key of an issuer that declares a key on a curve. -/
theorem misdeclaredKey_is_accepted : ∃ certificate algorithm,
    Certificate.ofOctets certificate.encode = .ok certificate ∧
      certificate.verifyIssuedBy certificate = .ok () ∧
        certificate.knownAlgorithm? = some algorithm ∧ algorithm.isRsa = true ∧
          certificate.tbs.publicKey.algorithm.oid ≠ rsaOid := by
  obtain ⟨certificate, after, issued, bound⟩ : ∃ certificate after,
      (exampleIssuer (.rsa Rsa.usualKey)).issue (misdeclaredTemplate Rsa.usualKey)
          exampleEnvironment = .ok certificate after ∧
        certificate.encode.length ≤ Der.maxLength :=
    Issuer.exists_issue_of_isFirst Rsa.usualKey_isFirst (by decide) (by decide +kernel)
  rcases verifyIssuedBy_misdeclaredTemplate issued KeyPair.not_isUnchecked_usualKey with
    ⟨accepted, declared, algorithm, known, isRsa⟩
  have identifiers : (exampleIssuer (.rsa Rsa.usualKey)).IsReadable
      (misdeclaredTemplate Rsa.usualKey) :=
    ⟨exampleIssuer_isReadable.1, by decide⟩
  refine ⟨certificate, algorithm, ?_, accepted, known, isRsa, ?_⟩
  · rw [Issuer.ofOctets_encode_of_issue issued bound, if_pos identifiers]
  · rw [declared]
    decide

end CertAuthority
