import CertAuthority.Proofs.Curve.PointEncoding
import CertAuthority.Proofs.Ecdsa.Signature
import CertAuthority.Proofs.Issuance.Issue
import CertAuthority.Proofs.Key.Container

/-!
# Issued certificates are accepted

The signature of an issued certificate is accepted with the certificate of its
issuer.  The algorithm is found again from its identifier, the curve from the
digest and from the identifier of the key, and the signature covers the same
octets.  Keys with a longer modulus than signatures are checked with are the
exception: signatures of these keys are made, but never accepted.
-/

namespace CertAuthority

open X509 (Certificate)

/-! ## Signatures of a key pair -/

theorem verificationCurve_signatureAlgorithm (curve : NistCurve) :
    verificationCurve curve.signatureAlgorithm (some curve.oid) = curve := by
  cases curve <;> decide

namespace KeyPair

/-- Whether the modulus of a key pair is longer than signatures are checked with. -/
def IsUnchecked (pair : KeyPair) : Prop :=
  pair.algorithm = .rsa ∧ maxCheckedRsaBits < pair.size

instance (pair : KeyPair) : Decidable pair.IsUnchecked :=
  inferInstanceAs (Decidable (_ ∧ _))

theorem isUnchecked_rsa (key : Rsa.PrivateKey) :
    (rsa key).IsUnchecked ↔ maxCheckedRsaBits < key.publicKey.bitLength :=
  and_iff_right rfl

theorem not_isUnchecked_ecdsa (curve : NistCurve) (scalar : NistCurve.Scalar curve) :
    ¬ (ecdsa curve scalar).IsUnchecked :=
  fun unchecked => nomatch unchecked.1

end KeyPair

/-- The signature of a message is accepted for all messages with its digest. -/
theorem verifyRsa_of_sign? {key : Rsa.PrivateKey} {hash : Hash.Algorithm}
    {message signature : Octets} (signed : key.sign? hash message = some signature)
    (other : Octets) :
    verifyRsa hash key.publicKey.encode other signature =
      if maxCheckedRsaBits < key.publicKey.bitLength then .error .malformedPublicKey
      else if hash.digest other = hash.digest message then .ok ()
      else .error .invalidSignature := by
  by_cases long : maxCheckedRsaBits < key.publicKey.bitLength
  · rw [if_pos long, verifyRsa]
    cases read : Rsa.PublicKey.decode? key.publicKey.encode with
    | none => rw [orError_none_bind]
    | some found =>
        rcases Rsa.PublicKey.eq_of_decode?_encode read with rfl
        rw [orError_some_bind, if_pos long]
  · have octets : maxCheckedRsaBits = 8 * (maxCheckedRsaBits / 8) := rfl
    have small := Rsa.PublicKey.modulus_lt_of_bitLength_le
      ((Nat.le_of_not_lt long).trans octets.le)
    have bound := Rsa.PublicKey.length_encode_le (by decide) key.isSound small
    rw [if_neg long, verifyRsa, Rsa.PublicKey.decode?_encode key.isSound bound,
      orError_some_bind, if_neg long]
    exact if_congr (key.verify_iff_of_sign? signed) rfl rfl

theorem verifyEcdsa_of_sign? {curve : NistCurve} {scalar nonce : NistCurve.Scalar curve}
    {hash : Hash.Algorithm} {message : Octets} {signature : Ecdsa.Signature}
    (signed : Ecdsa.sign? curve scalar nonce (hash.digest message) = some signature) :
    verifyEcdsa curve hash (curve.encodePoint scalar.publicPoint) message signature.encode =
      .ok () := by
  rw [verifyEcdsa, scalar.decodePoint?_publicPoint, Ecdsa.Signature.decode?_encode signed,
    orError_some_bind, orError_some_bind, Ecdsa.verify_of_sign? signed, if_pos rfl]

namespace KeyPair

/-- A signature that a key pair made is accepted, unless the pair is one that is not checked. -/
theorem verifySignature_of_sign {pair : KeyPair} {message signature : Octets}
    {environment after : Environment}
    (signed : pair.sign message environment = .ok signature after) :
    verifySignature pair.signatureAlgorithm pair.publicKeyInfo message signature =
      if pair.IsUnchecked then .error .malformedPublicKey else .ok () := by
  cases pair with
  | rsa key =>
      rw [sign_rsa, Operation.ofOption_eq_ok] at signed
      rw [verifySignature, signatureAlgorithm, if_pos (isRsa_rsaSignatureAlgorithm _)]
      refine (verifyRsa_of_sign? signed.1 message).trans ?_
      rw [if_pos rfl]
      exact if_congr (isUnchecked_rsa key).symm rfl rfl
  | ecdsa curve scalar =>
      rcases exists_of_sign_ecdsa signed with ⟨nonce, made, found, rfl⟩
      have isEcdsa : ¬ curve.signatureAlgorithm.isRsa = true := by cases curve <;> decide
      rw [verifySignature, signatureAlgorithm, if_neg isEcdsa]
      simp only [publicKeyInfo, NistCurve.parametersOid?_keyIdentifier,
        verificationCurve_signatureAlgorithm, not_isUnchecked_ecdsa, if_false]
      exact verifyEcdsa_of_sign? found

end KeyPair

theorem Key.verifySignature_of_sign {key : Key} {message signature : Octets}
    {environment after : Environment}
    (signed : key.sign message environment = .ok signature after) :
    verifySignature key.signatureAlgorithm key.publicKeyInfo message signature =
      if key.pair.IsUnchecked then .error .malformedPublicKey else .ok () := by
  rw [sign_eq] at signed
  rw [signatureAlgorithm_eq]
  exact KeyPair.verifySignature_of_sign signed

/-! ## Issued certificates -/

/-- The certificate of an issuer, which is the issued one if the subject signs it itself. -/
def Issuer.certificateFor (issuer : Issuer) (issued : Certificate) : Certificate :=
  match issuer with
  | subject _ _ => issued
  | authority holder => holder.certificate

/-- Whether the certificate of an issuer is for its key: the one that is made of the template if the
subject signs it. -/
def Issuer.Certifies (issuer : Issuer) (template : CertificateTemplate) : Prop :=
  match issuer with
  | subject _ key => template.publicKey = key.publicKeyInfo
  | authority holder => holder.IsCertified

@[simp]
theorem Issuer.certificateFor_authority (holder : Authority) (issued : Certificate) :
    (authority holder).certificateFor issued = holder.certificate := rfl

/-- Signatures of an issuer are checked with the key in its certificate. -/
theorem Issuer.publicKey_certificateFor {issuer : Issuer} {template : CertificateTemplate}
    {certificate : Certificate} (certifies : issuer.Certifies template)
    (stated : certificate.tbs.publicKey = template.publicKey) :
    (issuer.certificateFor certificate).tbs.publicKey = issuer.key.publicKeyInfo := by
  cases issuer with
  | subject name key => exact stated.trans certifies
  | authority holder => exact certifies.symm

/-- What the check of a certificate with the key of its issuer gives. -/
def Issuer.verdict (issuer : Issuer) : Except Error Unit :=
  if issuer.key.pair.IsUnchecked then .error .malformedPublicKey else .ok ()

theorem Issuer.verifyIssuedBy_certificateFor {issuer : Issuer} {template : CertificateTemplate}
    {environment after : Environment} {certificate : Certificate}
    (issued : issuer.issue template environment = .ok certificate after)
    (certifies : issuer.Certifies template) :
    certificate.verifyIssuedBy (issuer.certificateFor certificate) = issuer.verdict := by
  rcases issue_eq_ok issued with ⟨issuance⟩
  rcases CertificateTemplate.toTbs_eq_ok issuance.stated with ⟨stated⟩
  have publicKey := publicKey_certificateFor certifies stated.publicKey_eq
  have algorithm : certificate.knownAlgorithm? = some issuer.key.signatureAlgorithm := by
    rw [Certificate.knownAlgorithm?, issuance.algorithm]
    exact SignatureAlgorithm.ofOid?_oid _
  rw [Certificate.verifyIssuedBy, algorithm, orError_some_bind, publicKey, issuance.signature_eq]
  exact Key.verifySignature_of_sign issuance.signed

/-- An issued certificate is accepted with the certificate of its issuer, both as it was made and
as it is read again, exactly if the key of the issuer is one that signatures are checked with.  It
is read again if the identifiers that the issuer and the template choose are read. -/
theorem Issuer.issue_is_accepted {issuer : Issuer} {template : CertificateTemplate}
    {environment after : Environment} {certificate : Certificate}
    (issued : issuer.issue template environment = .ok certificate after)
    (certifies : issuer.Certifies template) :
    (certificate.verifyIssuedBy (issuer.certificateFor certificate) = .ok () ↔
      ¬ issuer.key.pair.IsUnchecked) ∧
      certificate.verifyIssuedBy (issuer.certificateFor certificate) = issuer.verdict ∧
        (certificate.encode.length ≤ Der.maxLength →
          (issuer.IsReadable template → ∃ decoded,
            Certificate.ofOctets certificate.encode = .ok decoded ∧
              Certificate.ofFile certificate.file = .ok decoded ∧
                decoded.verifyIssuedBy (issuer.certificateFor decoded) = issuer.verdict) ∧
          ∀ decoded, Certificate.ofOctets certificate.encode = .ok decoded ∨
              Certificate.ofFile certificate.file = .ok decoded →
            decoded.verifyIssuedBy (issuer.certificateFor decoded) = issuer.verdict) := by
  have checked := verifyIssuedBy_certificateFor issued certifies
  refine ⟨?_, checked, fun bound => ⟨fun identifiers => ⟨certificate, ?_, ?_, checked⟩, ?_⟩⟩
  · rw [checked, verdict]
    split
    · rename_i unchecked
      exact iff_of_false nofun (not_not_intro unchecked)
    · rename_i usable
      exact iff_of_true rfl usable
  · rw [ofOctets_encode_of_issue issued bound, if_pos identifiers]
  · rw [ofFile_file_of_issue issued bound, if_pos identifiers]
  · intro decoded read
    rcases Certificate.eq_of_read_back bound read with rfl
    exact checked

theorem KeyPair.not_isUnchecked_usualKey : ¬ (rsa Rsa.usualKey).IsUnchecked := by
  rw [isUnchecked_rsa, (Rsa.keyOfPrimes?_eq_some Rsa.usualKey_isFirst.found).1.bitLength]
  decide

theorem KeyPair.isUnchecked_longKey : (rsa Rsa.longKey).IsUnchecked := by
  rw [isUnchecked_rsa, (Rsa.keyOfPrimes?_eq_some Rsa.longKey_isFirst.found).1.bitLength]
  decide

/-- There is a certificate of the key of 2048 bits, which is written as it is read. -/
theorem exists_usualIssuer : ∃ issuer : Certificate,
    Certificate.ofOctets issuer.encode = .ok issuer ∧
      issuer.tbs.publicKey = (KeyPair.rsa Rsa.usualKey).publicKeyInfo ∧
        issuer.verifyIssuedBy issuer = .ok () := by
  rcases exists_issue_usualKey with ⟨issuer, after, issued, bound⟩
  rcases Issuer.exists_stated_of_issue issued with ⟨_, _, ⟨stated⟩⟩
  have checked := Issuer.verifyIssuedBy_certificateFor issued rfl
  have read := Issuer.ofOctets_encode_of_issue issued bound
  rw [if_pos exampleIssuer_isReadable] at read
  exact ⟨issuer, read, stated.publicKey_eq,
    checked.trans (if_neg KeyPair.not_isUnchecked_usualKey)⟩

/-- The template is accepted with a key of 2048 bits. -/
theorem exampleIssuer_is_accepted : ∃ certificate after,
    (exampleIssuer (.rsa Rsa.usualKey)).issue (exampleTemplate (.rsa Rsa.usualKey))
        exampleEnvironment = .ok certificate after ∧
      (exampleIssuer (.rsa Rsa.usualKey)).Certifies (exampleTemplate (.rsa Rsa.usualKey)) ∧
        certificate.verifyIssuedBy certificate = .ok () := by
  rcases exists_issue_usualKey with ⟨certificate, after, issued, _⟩
  rcases Issuer.issue_is_accepted issued rfl with ⟨accepted, _⟩
  exact ⟨certificate, after, issued, rfl, accepted.mpr KeyPair.not_isUnchecked_usualKey⟩

/-- The template is signed with a key of 4112 bits, but the signature is not accepted. -/
theorem exampleIssuer_is_refused : ∃ certificate after,
    (exampleIssuer (.rsa Rsa.longKey)).issue (exampleTemplate (.rsa Rsa.longKey))
        exampleEnvironment = .ok certificate after ∧
      (exampleIssuer (.rsa Rsa.longKey)).Certifies (exampleTemplate (.rsa Rsa.longKey)) ∧
        certificate.verifyIssuedBy certificate = .error .malformedPublicKey := by
  obtain ⟨certificate, after, issued, _⟩ :=
    exists_issue_exampleTemplate Rsa.longKey_isFirst (by decide) (by decide +kernel)
  have checked := Issuer.verifyIssuedBy_certificateFor issued rfl
  exact ⟨certificate, after, issued, rfl, checked.trans (if_pos KeyPair.isUnchecked_longKey)⟩

end CertAuthority
