import CertAuthority.Proofs.DeclaredKey
import CertAuthority.Proofs.SignedOctets

/-!
# Which algorithms signatures are checked with

A signature algorithm names a digest and a kind of key, but no curve.  The
curve that a signature is checked on follows from the digest, so that points
are read on the one curve whose keys sign with that digest; only SHA-256 goes
with two curves.  A genuine signature is accepted with such a key, and refused
with a key on any other curve because its point cannot be read
(`X509.Certificate.verifyIssuedBy_of_verify`).
-/

namespace CertAuthority

open X509 (Certificate PublicKeyInfo TbsCertificate)

/-- With a key that declares its curve, signatures are checked on that curve exactly if its keys
sign with the algorithm. -/
theorem verificationCurve_eq_iff {curve : NistCurve} {algorithm : SignatureAlgorithm}
    (onCurve : algorithm.isRsa = false) :
    verificationCurve algorithm (some curve.oid) = curve ↔
      curve.signatureAlgorithm = algorithm := by
  revert onCurve
  cases curve <;> cases algorithm <;> decide

theorem verifyEcdsa_of_decodePoint?_ne {curve other : NistCurve} {octets : Octets}
    {point : Curve.Point} (read : curve.decodePoint? octets = some point)
    (different : other ≠ curve) (hash : Hash.Algorithm) (message signature : Octets) :
    verifyEcdsa other hash octets message signature = .error .malformedPoint := by
  have unread : other.decodePoint? octets = none := by
    rw [Option.eq_none_iff_forall_ne_some]
    intro otherPoint otherRead
    exact different (NistCurve.eq_of_decodePoint? otherRead read)
  rw [verifyEcdsa, unread, orError_none_bind]

/-- A genuine signature of the declared key is accepted on the curve whose keys sign with its
algorithm.  On other curves no signature is. -/
theorem verifySignature_of_declared_point {info : PublicKeyInfo} {curve : NistCurve}
    {point : Curve.Point} {algorithm : SignatureAlgorithm} {message signature : Octets}
    (declared : info.declaredKey? = some (.ecdsa curve point))
    (valid : (PublicKey.ecdsa curve point).verify algorithm message signature = true) :
    verifySignature algorithm info message signature =
      if curve.signatureAlgorithm = algorithm then .ok () else .error .malformedPoint := by
  rcases PublicKeyInfo.declaredKey?_eq_some.mp declared with ⟨⟨_, parameters⟩, read⟩
  have onCurve : algorithm.isRsa = false := by
    rw [PublicKey.verify, Bool.and_eq_true, Bool.not_eq_true'] at valid
    exact valid.1
  have same : verificationCurve algorithm (some curve.oid) = curve ↔
      curve.signatureAlgorithm = algorithm := verificationCurve_eq_iff onCurve
  split
  · rename_i signs
    refine verifySignature_eq_ok.mpr ⟨.ecdsa curve point, ?_, rfl, valid⟩
    refine PublicKeyInfo.keyFor?_eq_some.mpr ⟨read, onCurve, ?_⟩
    rw [parameters, same.mpr signs]
  · rename_i signsOther
    rw [verifySignature, onCurve, parameters]
    exact verifyEcdsa_of_decodePoint?_ne read (mt same.mp signsOther) _ _ _

theorem verifySignature_of_declared_modulus {info : PublicKeyInfo} {key : Rsa.PublicKey}
    {algorithm : SignatureAlgorithm} {message signature : Octets}
    (declared : info.declaredKey? = some (.rsa key)) (short : key.bitLength ≤ maxCheckedRsaBits)
    (valid : (PublicKey.rsa key).verify algorithm message signature = true) :
    verifySignature algorithm info message signature = .ok () := by
  have read := (PublicKeyInfo.declaredKey?_eq_some.mp declared).2
  have isRsa : algorithm.isRsa = true := by
    rw [PublicKey.verify, Bool.and_eq_true] at valid
    exact valid.1
  refine verifySignature_eq_ok.mpr ⟨.rsa key, ?_, decide_eq_false short.not_gt, valid⟩
  exact PublicKeyInfo.keyFor?_eq_some.mpr ⟨read, isRsa⟩

/-! ## Certificates that are signed on every curve -/

/-- A signed part for the generator of a curve that names an algorithm. -/
def generatorTbs (curve : NistCurve) (algorithm : SignatureAlgorithm) : TbsCertificate :=
  { exampleTbs with
    signatureAlgorithm := algorithm.identifier
    publicKey := (KeyPair.ecdsa curve (Ecdsa.smallScalar curve false)).publicKeyInfo }

theorem length_encode_generatorTbs_le (curve : NistCurve) (algorithm : SignatureAlgorithm) :
    (generatorTbs curve algorithm).encode.length ≤ 1000 := by
  cases curve <;> cases algorithm <;> decide +kernel

theorem isReadable_generatorTbs (curve : NistCurve) (algorithm : SignatureAlgorithm) :
    (generatorTbs curve algorithm).IsReadable where
  serialNumber := X509.SerialNumber.isReadable_ofNat (by decide)
  signatureAlgorithm := algorithm.isReadable_identifier
  issuer := DistinguishedName.isReadable_toName _
  subject := DistinguishedName.isReadable_toName _
  publicKey := KeyPair.isReadable_publicKeyInfo (.ecdsa curve _)
  extensions := List.forall_mem_singleton.mpr (by decide)

/-- A certificate of the generator of a curve that is signed with an algorithm. -/
def generatorCertificate (curve : NistCurve) (algorithm : SignatureAlgorithm) (signature : Octets) :
    Certificate :=
  ⟨generatorTbs curve algorithm, algorithm.identifier, Der.BitString.ofOctets signature⟩

/-- The key whose public point is the generator. -/
def generatorPublicKey (curve : NistCurve) : PublicKey :=
  .ecdsa curve (Ecdsa.smallScalar curve false).publicPoint

section GeneratorCertificate

variable (curve : NistCurve) (algorithm : SignatureAlgorithm) (signature : Octets)

theorem knownAlgorithm?_generatorCertificate :
    (generatorCertificate curve algorithm signature).knownAlgorithm? = some algorithm :=
  SignatureAlgorithm.ofOid?_oid algorithm

theorem declaredKey?_generatorCertificate :
    (generatorCertificate curve algorithm signature).tbs.publicKey.declaredKey? =
      some (generatorPublicKey curve) :=
  PublicKeyInfo.declaredKey?_eq_some.mpr ⟨KeyPair.declares_publicKey (.ecdsa curve _),
    (Ecdsa.smallScalar curve false).decodePoint?_publicPoint⟩

/-- On every curve, the certificate can be signed with each digest by the key that it certifies. -/
theorem exists_verify_generatorCertificate (onCurve : algorithm.isRsa = false) : ∃ signature,
    Certificate.ofOctets (generatorCertificate curve algorithm signature).encode =
        .ok (generatorCertificate curve algorithm signature) ∧
      (generatorPublicKey curve).verify algorithm (generatorTbs curve algorithm).encode signature =
        true := by
  rcases Ecdsa.exists_sign? (Ecdsa.smallScalar curve false)
    (algorithm.hash.digest (generatorTbs curve algorithm).encode) with ⟨nonce, signature, signed⟩
  have short : (generatorTbs curve algorithm).encode.length + signature.encode.length ≤
      1000000 := by
    have part := length_encode_generatorTbs_le curve algorithm
    have octets := Ecdsa.Signature.length_encode_le signed
    omega
  refine ⟨signature.encode, ?_, ?_⟩
  · have readable : (generatorCertificate curve algorithm signature.encode).IsReadable :=
      ⟨isReadable_generatorTbs curve algorithm, algorithm.isReadable_identifier⟩
    have bound : (generatorCertificate curve algorithm signature.encode).encode.length ≤
        Der.maxLength := algorithm.length_signed_le short
    rw [Certificate.ofOctets_encode bound, if_pos readable]
  · simp only [generatorPublicKey, PublicKey.verify, onCurve, Bool.not_false, Bool.true_and,
      Ecdsa.Signature.decode?_encode signed, Option.any_some]
    exact Ecdsa.verify_of_sign? signed

end GeneratorCertificate

/-! ## Genuine signatures -/

namespace X509.Certificate

/-- A certificate whose signature is a genuine one of the key that the issuer declares is accepted
with an RSA key that signatures are checked with, and with a point on a curve whose keys sign with
the algorithm.  It is refused with a point on any other curve. -/
theorem verifyIssuedBy_of_verify {certificate issuer : Certificate}
    {algorithm : SignatureAlgorithm} {key : PublicKey}
    (known : certificate.knownAlgorithm? = some algorithm)
    (declared : issuer.tbs.publicKey.declaredKey? = some key)
    (valid : key.verify algorithm certificate.tbs.encode certificate.signature.octets = true) :
    match key with
    | .rsa modulus =>
        modulus.bitLength ≤ maxCheckedRsaBits → certificate.verifyIssuedBy issuer = .ok ()
    | .ecdsa curve _ => certificate.verifyIssuedBy issuer =
        if curve.signatureAlgorithm = algorithm then .ok () else .error .malformedPoint := by
  rw [verifyIssuedBy, known, orError_some_bind]
  cases key with
  | rsa modulus => exact fun short => verifySignature_of_declared_modulus declared short valid
  | ecdsa curve point => exact verifySignature_of_declared_point declared valid

end X509.Certificate

/-- A certificate on the curve of 384 bits that is signed over the digest of that size is
accepted. -/
theorem verifyIssuedBy_generatorCertificate : ∃ signature,
    Certificate.ofOctets (generatorCertificate .p384 .ecdsaSha384 signature).encode =
        .ok (generatorCertificate .p384 .ecdsaSha384 signature) ∧
      (generatorCertificate .p384 .ecdsaSha384 signature).verifyIssuedBy
        (generatorCertificate .p384 .ecdsaSha384 signature) = .ok () := by
  rcases exists_verify_generatorCertificate .p384 .ecdsaSha384 rfl with ⟨signature, read, valid⟩
  have checked := Certificate.verifyIssuedBy_of_verify
    (knownAlgorithm?_generatorCertificate .p384 .ecdsaSha384 signature)
    (declaredKey?_generatorCertificate .p384 .ecdsaSha384 signature) valid
  exact ⟨signature, read, checked⟩

/-- A certificate on the curve of 256 bits that is genuinely signed over the same digest is
refused. -/
theorem mixedSignature_is_refused : ∃ signature,
    Certificate.ofOctets (generatorCertificate .p256 .ecdsaSha384 signature).encode =
        .ok (generatorCertificate .p256 .ecdsaSha384 signature) ∧
      (generatorCertificate .p256 .ecdsaSha384 signature).knownAlgorithm? = some .ecdsaSha384 ∧
        (generatorCertificate .p256 .ecdsaSha384 signature).tbs.publicKey.declaredKey? =
            some (generatorPublicKey .p256) ∧
          (generatorPublicKey .p256).verify .ecdsaSha384
              (generatorTbs .p256 .ecdsaSha384).encode signature = true ∧
            (generatorCertificate .p256 .ecdsaSha384 signature).verifyIssuedBy
                (generatorCertificate .p256 .ecdsaSha384 signature) = .error .malformedPoint ∧
              Error.malformedPoint.kind = .crypto := by
  rcases exists_verify_generatorCertificate .p256 .ecdsaSha384 rfl with ⟨signature, read, valid⟩
  have declared := declaredKey?_generatorCertificate .p256 .ecdsaSha384 signature
  exact ⟨signature, read, knownAlgorithm?_generatorCertificate .p256 .ecdsaSha384 signature,
    declared, valid, verifySignature_of_declared_point declared valid, rfl⟩

end CertAuthority
