import CertAuthority.Issuance.Issuer
import CertAuthority.Proofs.Issuance.Extensions
import CertAuthority.Proofs.Key.Pair
import CertAuthority.Proofs.Pem.Strict
import CertAuthority.Proofs.Validity
import CertAuthority.Proofs.X509.Distinguished
import CertAuthority.Proofs.X509.HolderName

/-!
# Issued certificates

A certificate that was issued is made of the signed part that its template
stands for and of a signature over the octets of that part (`Issuance`).  It says
what the template says.

Its octets and its file are read back as that certificate exactly if the object
identifiers in the name of the issuer and in the public key of the template are
ones that are read (`Issuer.IsReadable`); all the others are.  Otherwise they are
not read at all, so whatever is read says what the template says.
-/

namespace CertAuthority

open X509 (Certificate Extension Name SerialNumber TbsCertificate)

theorem SignatureAlgorithm.isReadable_identifier (algorithm : SignatureAlgorithm) :
    algorithm.identifier.IsReadable := by
  cases algorithm <;> decide

/-! ## What signing a template gives -/

/-- The signed part of a template is made of its extensions, its period and its other fields. -/
structure CertificateTemplate.Stated (template : CertificateTemplate) (issuer : Name)
    (algorithm : SignatureAlgorithm) (authorityKeyId : Option Octets) (tbs : TbsCertificate) where
  extensions : List Extension
  period : X509.Period
  extensions_written : template.extensions authorityKeyId = .ok extensions
  period_written : template.validity.toPeriod = .ok period
  shape : tbs =
    { version := .v3
      serialNumber := SerialNumber.ofNat template.serialNumber.toNat
      signatureAlgorithm := algorithm.identifier
      issuer
      validity := period
      subject := template.subject.toName
      publicKey := template.publicKey
      issuerId := none
      subjectId := none
      extensions := some extensions }

theorem CertificateTemplate.toTbs_eq_ok {template : CertificateTemplate} {issuer : Name}
    {algorithm : SignatureAlgorithm} {authorityKeyId : Option Octets} {tbs : TbsCertificate}
    (written : template.toTbs issuer algorithm authorityKeyId = .ok tbs) :
    Nonempty (Stated template issuer algorithm authorityKeyId tbs) := by
  rcases Except.bind_eq_ok.mp written with ⟨extensions, extensionsWritten, written⟩
  rcases Except.bind_eq_ok.mp written with ⟨period, periodWritten, written⟩
  exact ⟨⟨extensions, period, extensionsWritten, periodWritten, (Except.ok.inj written).symm⟩⟩

namespace CertificateTemplate.Stated

variable {template : CertificateTemplate} {issuer : Name} {algorithm : SignatureAlgorithm}
  {authorityKeyId : Option Octets} {tbs : TbsCertificate}

theorem serialNumber_eq (stated : Stated template issuer algorithm authorityKeyId tbs) :
    tbs.serialNumber = SerialNumber.ofNat template.serialNumber.toNat :=
  congrArg (·.serialNumber) stated.shape

theorem subject_eq (stated : Stated template issuer algorithm authorityKeyId tbs) :
    tbs.subject = template.subject.toName :=
  congrArg (·.subject) stated.shape

theorem publicKey_eq (stated : Stated template issuer algorithm authorityKeyId tbs) :
    tbs.publicKey = template.publicKey :=
  congrArg (·.publicKey) stated.shape

theorem validity_eq (stated : Stated template issuer algorithm authorityKeyId tbs) :
    tbs.validity = stated.period :=
  congrArg (·.validity) stated.shape

theorem extensions_eq (stated : Stated template issuer algorithm authorityKeyId tbs) :
    tbs.extensions = some stated.extensions :=
  congrArg (·.extensions) stated.shape

/-- Only the name of the issuer and the public key may hold identifiers that are not read. -/
theorem isReadable_iff (stated : Stated template issuer algorithm authorityKeyId tbs) :
    tbs.IsReadable ↔ issuer.IsReadable ∧ template.publicKey.IsReadable := by
  rcases extensions_eq_ok stated.extensions_written with ⟨list⟩
  have small : template.serialNumber.toNat < 256 ^ 20 :=
    Nat.lt_trans template.serialNumber.toNat_lt (by decide)
  rw [stated.shape]
  constructor
  · exact fun readable => ⟨readable.issuer, readable.publicKey⟩
  · rintro ⟨name, publicKey⟩
    exact
      { serialNumber := SerialNumber.isReadable_ofNat small
        signatureAlgorithm := algorithm.isReadable_identifier
        issuer := name
        subject := template.subject.isReadable_toName
        publicKey := publicKey
        extensions := fun _ member => list.oid_readable member }

end CertificateTemplate.Stated

/-- What an issuer that signed a template did. -/
structure Issuer.Issuance (issuer : Issuer) (template : CertificateTemplate)
    (environment : Environment) (certificate : Certificate) where
  keyId : Option Octets
  signature : Octets
  after : Environment
  keyId_found : issuer.keyId = .ok keyId
  stated : template.toTbs issuer.name issuer.key.signatureAlgorithm keyId = .ok certificate.tbs
  signed : issuer.key.sign certificate.tbs.encode environment = .ok signature after
  algorithm : certificate.signatureAlgorithm = issuer.key.signatureAlgorithm.identifier
  signature_eq : certificate.signature = Der.BitString.ofOctets signature

theorem Issuer.issue_eq_ok {issuer : Issuer} {template : CertificateTemplate}
    {environment after : Environment} {certificate : Certificate}
    (issued : issuer.issue template environment = .ok certificate after) :
    Nonempty (Issuance issuer template environment certificate) := by
  rw [issue_eq] at issued
  rcases Operation.ofExcept_bind_eq_ok.mp issued with ⟨keyId, keyIdFound, issued⟩
  rcases Operation.ofExcept_bind_eq_ok.mp issued with ⟨tbs, stated, issued⟩
  rcases Operation.bind_eq_ok.mp issued with ⟨signature, between, signed, issued⟩
  rcases Operation.bind_eq_ok.mp issued with ⟨_, _, _, issued⟩
  rcases Operation.pure_eq_ok.mp issued with ⟨rfl, _⟩
  exact ⟨⟨keyId, signature, between, keyIdFound, stated, signed, rfl, rfl⟩⟩

/-- The signed part of an issued certificate is that of its template. -/
theorem Issuer.exists_stated_of_issue {issuer : Issuer} {template : CertificateTemplate}
    {environment after : Environment} {certificate : Certificate}
    (issued : issuer.issue template environment = .ok certificate after) :
    ∃ keyId, issuer.keyId = .ok keyId ∧ Nonempty (CertificateTemplate.Stated template issuer.name
      issuer.key.signatureAlgorithm keyId certificate.tbs) := by
  rcases issue_eq_ok issued with ⟨issuance⟩
  exact ⟨issuance.keyId, issuance.keyId_found, CertificateTemplate.toTbs_eq_ok issuance.stated⟩

/-- A template that can be written is signed by every key that signs its octets, and only the
signature may need randomness. -/
theorem Issuer.issue_of_sign {issuer : Issuer} {template : CertificateTemplate}
    {environment between : Environment} {keyId : Option Octets} {tbs : TbsCertificate}
    {signature : Octets} (keyId_found : issuer.keyId = .ok keyId)
    (stated : template.toTbs issuer.name issuer.key.signatureAlgorithm keyId = .ok tbs)
    (signed : issuer.key.sign tbs.encode environment = .ok signature between) :
    ∃ after, issuer.issue template environment =
      .ok ⟨tbs, issuer.key.signatureAlgorithm.identifier, Der.BitString.ofOctets signature⟩
        after ∧ after.entropy = between.entropy := by
  rw [issue_eq]
  exact ⟨_, Operation.ofExcept_bind_eq_ok.mpr ⟨keyId, keyId_found,
    Operation.ofExcept_bind_eq_ok.mpr ⟨tbs, stated,
      Operation.bind_eq_ok.mpr ⟨signature, between, signed, rfl⟩⟩⟩, rfl⟩

theorem SignatureAlgorithm.length_encode_identifier (algorithm : SignatureAlgorithm) :
    algorithm.identifier.encode.length ≤ 20 := by
  cases algorithm <;> decide

/-- Whether the signed part of a template can be written, and is short with a signature of a
number of octets. -/
def CertificateTemplate.isShort (template : CertificateTemplate) (issuer : Name)
    (algorithm : SignatureAlgorithm) (authorityKeyId : Option Octets) (size : Nat) : Bool :=
  (template.toTbs issuer algorithm authorityKeyId).toOption.any
    fun tbs => decide (tbs.encode.length + size ≤ 1000000)

/-- Octets with a signature of them are not too long if both are short. -/
theorem SignatureAlgorithm.length_signed_le (algorithm : SignatureAlgorithm)
    {octets signature : Octets} (short : octets.length + signature.length ≤ 1000000) :
    (Der.encode Der.Tag.sequence (octets ++ algorithm.identifier.encode ++
      (Der.BitString.ofOctets signature).encode)).length ≤ Der.maxLength := by
  have identifier := algorithm.length_encode_identifier
  have bits : (Der.BitString.ofOctets signature).encode.length ≤ signature.length + 7 :=
    Der.BitString.length_encode_ofOctets_le (by rw [Der.maxLength]; omega)
  have parts : (octets ++ algorithm.identifier.encode ++
      (Der.BitString.ofOctets signature).encode).length ≤ 1000027 := by
    simp only [List.length_append]
    omega
  have whole := Der.length_encode_le Der.Tag.sequence (parts.trans (by decide))
  exact whole.trans ((Nat.add_le_add_right parts 6).trans (by decide))

/-- A short template is signed by every key pair that signs everything, and the certificate is not
too long. -/
theorem Issuer.exists_issue {issuer : Issuer} {template : CertificateTemplate}
    {environment : Environment} {keyId : Option Octets} {size : Nat}
    (signs : ∀ message, ∃ signature,
      issuer.key.pair.sign message environment = .ok signature environment ∧
        signature.length = size)
    (keyId_found : issuer.keyId = .ok keyId)
    (isShort : template.isShort issuer.name issuer.key.pair.signatureAlgorithm keyId size = true) :
    ∃ certificate after, issuer.issue template environment = .ok certificate after ∧
      certificate.encode.length ≤ Der.maxLength ∧ after.entropy = environment.entropy := by
  rw [← Key.signatureAlgorithm_eq] at isShort
  rcases Except.exists_eq_ok_of_any isShort with ⟨tbs, stated, short⟩
  rw [decide_eq_true_eq] at short
  rcases signs tbs.encode with ⟨signature, signed, rfl⟩
  rw [← Key.sign_eq] at signed
  rcases Issuer.issue_of_sign keyId_found stated signed with ⟨after, issued, unused⟩
  exact ⟨_, after, issued, issuer.key.signatureAlgorithm.length_signed_le short, unused⟩

/-- A subject with an RSA key that was generated signs every short template. -/
theorem Issuer.exists_issue_of_isFirst {key : Rsa.PrivateKey} {bits : Nat} {entropy : Entropy}
    (isFirst : key.IsFirstOf bits entropy) (many : 8 * KeyPair.longestPadding ≤ bits)
    {name : Name} {file : Octets} {template : CertificateTemplate} {environment : Environment}
    (isShort : template.isShort name (KeyPair.rsa key).signatureAlgorithm none
      key.publicKey.size = true) :
    ∃ certificate after,
      (Issuer.subject name (Key.ofPair (.rsa key) file)).issue template environment =
          .ok certificate after ∧
        certificate.encode.length ≤ Der.maxLength := by
  have signs : ∀ message, ∃ signature,
      (KeyPair.rsa key).sign message environment = .ok signature environment ∧
        signature.length = key.publicKey.size :=
    fun message => KeyPair.exists_sign_of_isFirst isFirst many message environment
  obtain ⟨certificate, after, issued, short, _⟩ : ∃ certificate after,
      (Issuer.subject name (Key.ofPair (.rsa key) file)).issue template environment =
          .ok certificate after ∧
        certificate.encode.length ≤ Der.maxLength ∧ after.entropy = environment.entropy :=
    exists_issue signs rfl isShort
  exact ⟨certificate, after, issued, short⟩

/-! ### A template and an issuer -/

/-- A template with a large serial number, a repeated purpose and hosts of two kinds. -/
def exampleTemplate (key : KeyPair) : CertificateTemplate :=
  { serialNumber := 0x8000000000000001
    subject := { organization := ["Example", "Example"], commonName := "leaf" }
    publicKey := key.publicKeyInfo
    hosts := { dnsNames := ["a.example"], ipAddresses := [.v4 192 0 2 1] }
    validity := ⟨⟨0, 0, by decide⟩, ⟨86400500000000, 3600, by decide⟩⟩
    usage := ⟨KeyUsage.ofList [.digitalSignature], [.serverAuth, .clientAuth, .serverAuth]⟩
    statesConstraints := true
    isCa := false }

/-- The subject of the template with the key that it is for. -/
def exampleIssuer (key : KeyPair) : Issuer :=
  .subject (exampleTemplate key).subject.toName (Key.ofPair key [])

/-- A supply of zeros, before anything is reported. -/
def exampleEnvironment : Environment := ⟨⟨fun _ => 0, 0⟩, []⟩

/-- The template is signed, whatever the digest of its octets is. -/
theorem exists_issue_exampleTemplate {key : Rsa.PrivateKey} {bits : Nat} {entropy : Entropy}
    (isFirst : key.IsFirstOf bits entropy) (many : 8 * KeyPair.longestPadding ≤ bits)
    (isShort : (exampleTemplate (.rsa key)).isShort (exampleIssuer (.rsa key)).name
      (KeyPair.rsa key).signatureAlgorithm none key.publicKey.size = true) :
    ∃ certificate after,
      (exampleIssuer (.rsa key)).issue (exampleTemplate (.rsa key)) exampleEnvironment =
          .ok certificate after ∧
        certificate.encode.length ≤ Der.maxLength :=
  Issuer.exists_issue_of_isFirst isFirst many isShort

theorem exists_issue_usualKey : ∃ certificate after,
    (exampleIssuer (.rsa Rsa.usualKey)).issue (exampleTemplate (.rsa Rsa.usualKey))
        exampleEnvironment = .ok certificate after ∧
      certificate.encode.length ≤ Der.maxLength :=
  exists_issue_exampleTemplate Rsa.usualKey_isFirst (by decide) (by decide +kernel)

/-! ## Reading it back -/

namespace X509.Certificate

variable {certificate decoded : Certificate}

/-- The octets of a certificate are read as that certificate or not at all. -/
theorem ofOctets_encode (bound : certificate.encode.length ≤ Der.maxLength) :
    ofOctets certificate.encode =
      if certificate.IsReadable then .ok certificate else .error .malformedCertificate := by
  rw [ofOctets, certificate.readsIf.fillsIf.complete_eq bound]
  split <;> rfl

/-- What is read from the octets of a certificate is that certificate, and it is not too long. -/
theorem eq_of_ofOctets_encode (read : ofOctets certificate.encode = .ok decoded) :
    decoded = certificate ∧ certificate.tbs.encode.length ≤ Der.maxLength := by
  rcases Der.complete_decodeNested_encode.mp (orError_eq_ok.mp read) with ⟨short, content⟩
  refine ⟨((certificate.fillsIf.complete short).mp content).2, Nat.le_trans ?_ short⟩
  rw [List.append_assoc, List.length_append]
  exact Nat.le_add_right _ _

theorem ofFile?_file (bound : certificate.encode.length ≤ Der.maxLength) :
    ofFile? certificate.file = if certificate.IsReadable then some certificate else none := by
  have block : Pem.decode? label certificate.file = some certificate.encode :=
    Pem.decode?_encodeFile label certificate.encode
  ext found
  simp only [ofFile?, block, Option.bind_eq_bind, Option.bind_some, Option.bind_eq_some_iff,
    certificate.readsIf.fillsIf bound]
  split <;> simp_all [eq_comm]

theorem ofFile_file (bound : certificate.encode.length ≤ Der.maxLength) :
    ofFile certificate.file =
      if certificate.IsReadable then .ok certificate else .error .malformedCertificate := by
  rw [ofFile, ofFile?_file bound]
  split <;> rfl

/-- What was read is read back. -/
theorem isReadable_of_ofOctets {octets : Octets} (read : ofOctets octets = .ok certificate) :
    certificate.IsReadable :=
  isReadable_of_decode (Der.complete_eq_some.mp (orError_eq_ok.mp read))

theorem isReadable_of_ofFile? {file : Octets} (read : ofFile? file = some certificate) :
    certificate.IsReadable := by
  rcases Option.bind_eq_some_iff.mp read with ⟨octets, _, read⟩
  rcases Option.bind_eq_some_iff.mp read with ⟨⟨found, rest⟩, decoded, same⟩
  cases same
  exact isReadable_of_decode decoded

/-- What is read back is the certificate. -/
theorem eq_of_read_back (bound : certificate.encode.length ≤ Der.maxLength)
    (read : ofOctets certificate.encode = .ok decoded ∨ ofFile certificate.file = .ok decoded) :
    decoded = certificate := by
  rw [ofOctets_encode bound, ofFile_file bound, or_self] at read
  split at read
  · exact (Except.ok.inj read).symm
  · cases read

end X509.Certificate

namespace Issuer

variable {issuer : Issuer} {template : CertificateTemplate} {environment after : Environment}
  {certificate : Certificate}

/-- Whether the identifiers that an issuer and a template are free to choose are read. -/
def IsReadable (issuer : Issuer) (template : CertificateTemplate) : Prop :=
  issuer.name.IsReadable ∧ template.publicKey.IsReadable

instance (issuer : Issuer) (template : CertificateTemplate) :
    Decidable (issuer.IsReadable template) :=
  inferInstanceAs (Decidable (_ ∧ _))

theorem isReadable_iff_of_issue
    (issued : issuer.issue template environment = .ok certificate after) :
    certificate.IsReadable ↔ issuer.IsReadable template := by
  rcases issue_eq_ok issued with ⟨issuance⟩
  rcases CertificateTemplate.toTbs_eq_ok issuance.stated with ⟨stated⟩
  rw [Certificate.isReadable_iff, stated.isReadable_iff, issuance.algorithm]
  exact and_iff_left issuer.key.signatureAlgorithm.isReadable_identifier

theorem ofOctets_encode_of_issue
    (issued : issuer.issue template environment = .ok certificate after)
    (bound : certificate.encode.length ≤ Der.maxLength) :
    Certificate.ofOctets certificate.encode =
      if issuer.IsReadable template then .ok certificate else .error .malformedCertificate := by
  simp only [Certificate.ofOctets_encode bound, isReadable_iff_of_issue issued]

theorem ofFile_file_of_issue
    (issued : issuer.issue template environment = .ok certificate after)
    (bound : certificate.encode.length ≤ Der.maxLength) :
    Certificate.ofFile certificate.file =
      if issuer.IsReadable template then .ok certificate else .error .malformedCertificate := by
  simp only [Certificate.ofFile_file bound, isReadable_iff_of_issue issued]

/-- The octets and the file of an issued certificate are read as that certificate if its issuer and
its template have identifiers that are read, and not at all otherwise; what is read is written again
with the same octets. -/
theorem issue_survives_encoding
    (issued : issuer.issue template environment = .ok certificate after)
    (bound : certificate.encode.length ≤ Der.maxLength) :
    Certificate.ofOctets certificate.encode =
        (if issuer.IsReadable template then .ok certificate else .error .malformedCertificate) ∧
      Certificate.ofFile certificate.file =
          (if issuer.IsReadable template then .ok certificate else .error .malformedCertificate) ∧
        ∀ decoded, Certificate.ofOctets certificate.encode = .ok decoded ∨
            Certificate.ofFile certificate.file = .ok decoded →
          decoded = certificate ∧ decoded.encode = certificate.encode ∧
            decoded.file = certificate.file := by
  refine ⟨ofOctets_encode_of_issue issued bound, ofFile_file_of_issue issued bound,
    fun decoded read => ?_⟩
  rcases Certificate.eq_of_read_back bound read with rfl
  exact ⟨rfl, rfl, rfl⟩

end Issuer

theorem exampleIssuer_isReadable :
    (exampleIssuer (.rsa Rsa.usualKey)).IsReadable (exampleTemplate (.rsa Rsa.usualKey)) :=
  ⟨DistinguishedName.isReadable_toName _, by decide⟩

/-- The template is written and read again. -/
theorem exampleIssuer_survives_encoding : ∃ certificate after,
    (exampleIssuer (.rsa Rsa.usualKey)).issue (exampleTemplate (.rsa Rsa.usualKey))
        exampleEnvironment = .ok certificate after ∧
      certificate.encode.length ≤ Der.maxLength ∧
        Certificate.ofOctets certificate.encode = .ok certificate ∧
          Certificate.ofFile certificate.file = .ok certificate := by
  rcases exists_issue_usualKey with ⟨certificate, after, issued, bound⟩
  rcases Issuer.issue_survives_encoding issued bound with ⟨fromOctets, fromFile, _⟩
  rw [if_pos exampleIssuer_isReadable] at fromOctets fromFile
  exact ⟨certificate, after, issued, bound, fromOctets, fromFile⟩

/-- The identifier 1.2.3, which is written but not read. -/
def unreadOid : Der.Oid := ⟨[0x2a, 0x03], by decide⟩

/-- A subject with an attribute that is not read in its name. -/
def unreadIssuer (key : KeyPair) : Issuer :=
  .subject [Der.SetOf.singleton ⟨unreadOid, encodeText "x"⟩] (Key.ofPair key [])

/-- A certificate of an issuer with such a name is written and not read again. -/
theorem unreadIssuer_not_read_back : ∃ certificate after,
    (unreadIssuer (.rsa Rsa.usualKey)).issue (exampleTemplate (.rsa Rsa.usualKey))
        exampleEnvironment = .ok certificate after ∧
      certificate.encode.length ≤ Der.maxLength ∧
        Certificate.ofOctets certificate.encode = .error .malformedCertificate ∧
          Certificate.ofFile certificate.file = .error .malformedCertificate := by
  obtain ⟨certificate, after, issued, bound⟩ : ∃ certificate after,
      (unreadIssuer (.rsa Rsa.usualKey)).issue (exampleTemplate (.rsa Rsa.usualKey))
          exampleEnvironment = .ok certificate after ∧
        certificate.encode.length ≤ Der.maxLength :=
    Issuer.exists_issue_of_isFirst Rsa.usualKey_isFirst (by decide) (by decide +kernel)
  have unread : ¬ (unreadIssuer (.rsa Rsa.usualKey)).IsReadable
      (exampleTemplate (.rsa Rsa.usualKey)) := fun readable => absurd readable.1 (by decide)
  refine ⟨certificate, after, issued, bound, ?_, ?_⟩
  · rw [Issuer.ofOctets_encode_of_issue issued bound, if_neg unread]
  · rw [Issuer.ofFile_file_of_issue issued bound, if_neg unread]

/-! ## What it says -/

/-- A certificate says what a template says. -/
structure CertificateTemplate.IsSaidBy (template : CertificateTemplate)
    (authorityKeyId : Option Octets) (certificate : Certificate) : Prop where
  version : certificate.tbs.version = .v3
  serialNumber : certificate.tbs.serialNumber.value = template.serialNumber.toNat
  serialNumber_minimal : Der.isSignedContent certificate.tbs.serialNumber.content = true
  subject : DistinguishedName.ofName certificate.tbs.subject = template.subject
  publicKey : certificate.tbs.publicKey = template.publicKey
  notBefore : (certificate.tbs.validity.notBefore.seconds : Int) =
    template.validity.notBefore.seconds
  notAfter : (certificate.tbs.validity.notAfter.seconds : Int) = template.validity.notAfter.seconds
  distinct : (certificate.extensions.map (·.oid)).Nodup
  critical : ∀ extension ∈ certificate.extensions, extension.critical = true ↔
    extension.oid = KeyUsage.oid ∨ extension.oid = BasicConstraints.oid
  keyUsage : certificate.extensionValue KeyUsage =
    .ok (if template.usage.keyUsage.isEmpty then none else some template.usage.keyUsage)
  purposes : certificate.extensionValue ExtendedKeyUsage =
    .ok (if template.usage.purposes.isEmpty then none else some ⟨template.usage.purposes⟩)
  constraints : certificate.extensionValue BasicConstraints =
    .ok (if template.statesConstraints then some ⟨template.isCa, none⟩ else none)
  subjectKeyId : certificate.extensionValue SubjectKeyIdentifier =
    .ok (if template.isCa then some ⟨template.subjectKeyId⟩ else none)
  authorityKeyId : certificate.extensionValue AuthorityKeyIdentifier =
    .ok (authorityKeyId.map AuthorityKeyIdentifier.mk)
  hosts : certificate.extensionValue Hosts =
    .ok (if template.hosts.isEmpty then none else some template.hosts.unmapped)

namespace X509

theorem Extension.length_value_le (extension : Extension) :
    extension.value.length ≤ extension.encode.length := by
  have inner := Der.length_content_le Der.Tag.octetString extension.value
  refine Nat.le_trans inner (Nat.le_trans ?_ (Der.length_content_le _ _))
  simp only [Der.encodeOctetString, List.length_append]
  omega

namespace Certificate

theorem length_tbs_le (certificate : Certificate) :
    certificate.tbs.encode.length ≤ certificate.encode.length := by
  refine Nat.le_trans ?_ (Der.length_content_le _ _)
  simp only [List.length_append]
  omega

theorem length_value_le {certificate : Certificate} {extension : Extension}
    (member : extension ∈ certificate.extensions) :
    extension.value.length ≤ certificate.tbs.encode.length := by
  cases found : certificate.tbs.extensions with
  | none => simp [extensions, found] at member
  | some list =>
      simp only [extensions, found, Option.getD_some] at member
      rcases List.append_of_mem member with ⟨before, after, rfl⟩
      have items : extension.encode.length ≤
          ((before ++ extension :: after).flatMap Extension.encode).length := by
        simp only [List.flatMap_append, List.flatMap_cons, List.length_append]
        omega
      have written := Der.length_content_le Der.Tag.sequence
        ((before ++ extension :: after).flatMap Extension.encode)
      have wrapped := Der.length_content_le (Der.Tag.constructedField 3)
        (Extension.encodeList (before ++ extension :: after))
      have part : (Der.encode (Der.Tag.constructedField 3)
          (Extension.encodeList (before ++ extension :: after))).length ≤
            certificate.tbs.encode.length := by
        refine Nat.le_trans ?_ (Der.length_content_le _ _)
        simp only [TbsCertificate.encodeExtensions, found, Option.map_some, Option.getD_some,
          List.length_append]
        omega
      exact extension.length_value_le.trans (items.trans (written.trans (wrapped.trans part)))

end Certificate

end X509

namespace CertificateTemplate.Stated

variable {template : CertificateTemplate} {issuer : Name} {algorithm : SignatureAlgorithm}
  {authorityKeyId : Option Octets} {certificate : Certificate}

theorem certificate_extensions
    (stated : Stated template issuer algorithm authorityKeyId certificate.tbs) :
    certificate.extensions = stated.extensions :=
  congrArg (·.getD []) stated.extensions_eq

/-- An extension that carries a value is read as it was written. -/
theorem extensionValue_eq {α : Type} [ExtensionValue α] {value read : α} {critical wanted : Bool}
    {part : List Extension}
    (stated : Stated template issuer algorithm authorityKeyId certificate.tbs)
    (bound : certificate.tbs.encode.length ≤ Der.maxLength)
    (list : ExtensionList template authorityKeyId stated.extensions)
    (carries : Carries value critical wanted part)
    (member : (ExtensionValue.oid α, part) ∈ list.parts)
    (readsBack : ExtensionValue.ReadsBack value read) :
    certificate.extensionValue α = .ok (if wanted then some read else none) := by
  have found : certificate.extension? (ExtensionValue.oid α) =
      part.find? (·.oid = ExtensionValue.oid α) := by
    rw [Certificate.extension?, stated.certificate_extensions, list.find?_part member]
  rw [Certificate.extensionValue, found]
  refine carries.find?_read readsBack fun extension first => ?_
  rw [← found] at first
  exact (Certificate.length_value_le (List.mem_of_find?_eq_some first)).trans bound

/-- What a template states is said by every certificate with that signed part. -/
theorem isSaidBy (stated : Stated template issuer algorithm authorityKeyId certificate.tbs)
    (bound : certificate.tbs.encode.length ≤ Der.maxLength) :
    template.IsSaidBy authorityKeyId certificate := by
  rcases extensions_eq_ok stated.extensions_written with ⟨list⟩
  have seconds := Validity.seconds_toPeriod stated.period_written
  refine
    { version := congrArg (·.version) stated.shape
      serialNumber := ?serialNumber
      serialNumber_minimal := ?serialNumber_minimal
      subject := ?subject
      publicKey := stated.publicKey_eq
      notBefore := ?notBefore
      notAfter := ?notAfter
      distinct := ?distinct
      critical := ?critical
      keyUsage := ?keyUsage
      purposes := ?purposes
      constraints := ?constraints
      subjectKeyId := ?subjectKeyId
      authorityKeyId := ?authorityKeyId
      hosts := ?hosts }
  case serialNumber => rw [stated.serialNumber_eq, SerialNumber.value_ofNat]
  case serialNumber_minimal =>
    rw [stated.serialNumber_eq]
    exact Der.isSignedContent_unsignedContent _
  case subject => rw [stated.subject_eq, DistinguishedName.ofName_toName]
  case notBefore =>
    rw [stated.validity_eq]
    exact seconds.1
  case notAfter =>
    rw [stated.validity_eq]
    exact seconds.2
  case distinct =>
    rw [stated.certificate_extensions]
    exact list.nodup
  case critical =>
    rw [stated.certificate_extensions]
    exact fun _ => list.critical_iff
  case keyUsage =>
    rw [stated.extensionValue_eq bound list list.keyUsage_carries
      (by simp [ExtensionList.parts, ExtensionValue.oid]) (KeyUsage.readsBack _)]
    cases template.usage.keyUsage.isEmpty <;> rfl
  case purposes =>
    rw [stated.extensionValue_eq bound list list.purposes_carries
      (by simp [ExtensionList.parts, ExtensionValue.oid]) (ExtendedKeyUsage.readsBack _)]
    cases template.usage.purposes.isEmpty <;> rfl
  case constraints =>
    exact stated.extensionValue_eq bound list list.constraints_carries
      (by simp [ExtensionList.parts, ExtensionValue.oid]) (BasicConstraints.readsBack _)
  case subjectKeyId =>
    exact stated.extensionValue_eq bound list list.subjectKeyId_carries
      (by simp [ExtensionList.parts, ExtensionValue.oid]) (SubjectKeyIdentifier.readsBack _)
  case authorityKeyId =>
    rw [stated.extensionValue_eq bound list list.authorityKeyId_carries
      (by simp [ExtensionList.parts, ExtensionValue.oid]) (AuthorityKeyIdentifier.readsBack _)]
    cases authorityKeyId <;> rfl
  case hosts =>
    rw [stated.extensionValue_eq bound list list.hosts_carries
      (by simp [ExtensionList.parts, ExtensionValue.oid]) (Hosts.readsBack _)]
    cases template.hosts.isEmpty <;> rfl

end CertificateTemplate.Stated

/-- An issued certificate says what its template says and who signed it. -/
structure Issuer.Says (issuer : Issuer) (template : CertificateTemplate)
    (authorityKeyId : Option Octets) (certificate : Certificate) : Prop where
  said : template.IsSaidBy authorityKeyId certificate
  name : certificate.tbs.issuer = issuer.name
  innerAlgorithm : certificate.tbs.signatureAlgorithm = issuer.key.signatureAlgorithm.identifier
  outerAlgorithm : certificate.signatureAlgorithm = issuer.key.signatureAlgorithm.identifier

theorem Issuer.Issuance.says_template {issuer : Issuer} {template : CertificateTemplate}
    {environment : Environment} {certificate : Certificate}
    (issuance : Issuance issuer template environment certificate)
    (bound : certificate.tbs.encode.length ≤ Der.maxLength) :
    issuer.Says template issuance.keyId certificate := by
  rcases CertificateTemplate.toTbs_eq_ok issuance.stated with ⟨stated⟩
  exact ⟨stated.isSaidBy bound, congrArg (·.issuer) stated.shape,
    congrArg (·.signatureAlgorithm) stated.shape, issuance.algorithm⟩

/-- An issued certificate says what its template says.  Its octets are read as that certificate if
the issuer and the template have identifiers that are read, and not at all otherwise; so what is
read from them says what the template says. -/
theorem Issuer.issue_says_template {issuer : Issuer} {template : CertificateTemplate}
    {environment after : Environment} {certificate : Certificate}
    (issued : issuer.issue template environment = .ok certificate after) :
    ∃ keyId, issuer.keyId = .ok keyId ∧
      (certificate.encode.length ≤ Der.maxLength →
        issuer.Says template keyId certificate ∧
          Certificate.ofOctets certificate.encode =
            if issuer.IsReadable template then .ok certificate
            else .error .malformedCertificate) ∧
      ∀ decoded, Certificate.ofOctets certificate.encode = .ok decoded →
        issuer.Says template keyId decoded := by
  rcases issue_eq_ok issued with ⟨issuance⟩
  refine ⟨issuance.keyId, issuance.keyId_found, fun bound => ⟨?_, ?_⟩, fun decoded read => ?_⟩
  · exact issuance.says_template (certificate.length_tbs_le.trans bound)
  · exact ofOctets_encode_of_issue issued bound
  · rcases Certificate.eq_of_ofOctets_encode read with ⟨rfl, bound⟩
    exact issuance.says_template bound

/-- The template is said by the certificate that is read. -/
theorem exampleIssuer_says_template : ∃ certificate after,
    (exampleIssuer (.rsa Rsa.usualKey)).issue (exampleTemplate (.rsa Rsa.usualKey))
        exampleEnvironment = .ok certificate after ∧
      Certificate.ofOctets certificate.encode = .ok certificate ∧
        (exampleTemplate (.rsa Rsa.usualKey)).IsSaidBy none certificate := by
  rcases exists_issue_usualKey with ⟨certificate, after, issued, bound⟩
  rcases Issuer.issue_says_template issued with ⟨keyId, found, reads, _⟩
  obtain rfl : none = keyId := Except.ok.inj found
  rcases reads bound with ⟨stated, read⟩
  rw [if_pos exampleIssuer_isReadable] at read
  exact ⟨certificate, after, issued, read, stated.said⟩

/-- The template for a key whose algorithm is not read. -/
def unreadTemplate (key : KeyPair) : CertificateTemplate :=
  { exampleTemplate key with publicKey := ⟨⟨unreadOid, none⟩, key.publicKeyInfo.key⟩ }

/-- There is no certificate that says what this template says in the octets of the issued one. -/
theorem unreadTemplate_not_said : ∃ certificate after,
    (exampleIssuer (.rsa Rsa.usualKey)).issue (unreadTemplate (.rsa Rsa.usualKey))
        exampleEnvironment = .ok certificate after ∧
      certificate.encode.length ≤ Der.maxLength ∧
        Certificate.ofOctets certificate.encode = .error .malformedCertificate := by
  obtain ⟨certificate, after, issued, bound⟩ : ∃ certificate after,
      (exampleIssuer (.rsa Rsa.usualKey)).issue (unreadTemplate (.rsa Rsa.usualKey))
          exampleEnvironment = .ok certificate after ∧
        certificate.encode.length ≤ Der.maxLength :=
    Issuer.exists_issue_of_isFirst Rsa.usualKey_isFirst (by decide) (by decide +kernel)
  have unread : ¬ (exampleIssuer (.rsa Rsa.usualKey)).IsReadable
      (unreadTemplate (.rsa Rsa.usualKey)) := fun readable => absurd readable.2 (by decide)
  refine ⟨certificate, after, issued, bound, ?_⟩
  rw [Issuer.ofOctets_encode_of_issue issued bound, if_neg unread]

end CertAuthority
