import CertAuthority.Proofs.Issuance.Stages
import CertAuthority.Proofs.Issuance.Template
import CertAuthority.Proofs.Verification

/-!
# From an authority to its certificates

The files of an authority that was made are read back as the certificate and
the key that they were written for, so nothing is wrong with them when they are
used to make further certificates.  These certificates name the authority, refer
to its key by the identifier that the authority states for it, and are signed
with that key.
-/

namespace CertAuthority

open X509 (Certificate)

/-- Templates for a key bring no identifier that is not read. -/
theorem Issuer.isReadable_of_publicKey {issuer : Issuer} {template : CertificateTemplate}
    {key : Key} (name : issuer.name.IsReadable)
    (publicKey : template.publicKey = key.publicKeyInfo) : issuer.IsReadable template := by
  refine ⟨name, ?_⟩
  rw [publicKey]
  exact key.pair.isReadable_publicKeyInfo

namespace IssuedMaterial

/-! ## How material is made -/

/-- What files of a certificate and a key were made from. -/
structure Making (material : IssuedMaterial) where
  issuer : Issuer
  template : CertificateTemplate
  key : Key
  certificate : Certificate
  key_made : ∃ algorithm size environment after,
    Key.generate algorithm size environment = .ok key after
  issued : ∃ environment after, issuer.issue template environment = .ok certificate after
  issuerName : issuer.name.IsReadable
  publicKey : template.publicKey = key.publicKeyInfo
  statesConstraints : template.statesConstraints = true
  short : certificate.encode.length ≤ Der.maxLength
  certificateFile : material.certificate = certificate.file
  keyFile : material.privateKey = key.file

theorem ofParts_eq_ok {certificate : Certificate} {key : Key} {material : IssuedMaterial}
    (written : ofParts certificate key = .ok material) :
    certificate.encode.length ≤ Der.maxLength ∧ material.certificate = certificate.file ∧
      material.privateKey = key.file := by
  unfold ofParts at written
  split at written
  · rename_i short
    rcases Except.ok.inj written with rfl
    exact ⟨short, rfl, rfl⟩
  · cases written

end IssuedMaterial

namespace IssuedMaterial

/-- The usage of authorities. -/
def caUsage : Usage :=
  ⟨KeyUsage.ofList [.certificateSigning, .revocationSigning], []⟩

theorem ofNames_caUsages : Usage.ofNames caUsages = caUsage := by
  decide

theorem generateCa_eq_ok {document : Octets} {lifetime : Duration} {now : Instant}
    {environment after : Environment} {material : IssuedMaterial}
    (made : generateCa document lifetime now environment = .ok material after) :
    ∃ making : Making material,
      making.issuer = .subject making.template.subject.toName making.key ∧
        making.template.isCa = true ∧ making.template.usage = caUsage := by
  rcases Operation.bind_eq_ok.mp made with ⟨request, _, _, made⟩
  rcases Operation.bind_eq_ok.mp made with ⟨key, _, keyMade, made⟩
  rcases Operation.bind_eq_ok.mp made with ⟨template, _, built, made⟩
  rcases Operation.bind_eq_ok.mp made with ⟨certificate, _, issued, made⟩
  have fields := CertificateTemplate.build_eq_ok built
  rcases ofParts_eq_ok (Operation.ofExcept_eq_ok.mp made).1 with ⟨short, certificateFile, keyFile⟩
  refine ⟨⟨_, template, key, certificate, ⟨_, _, _, _, keyMade⟩, ⟨_, _, issued⟩,
    template.subject.isReadable_toName, fields.publicKey, fields.statesConstraints, short,
    certificateFile, keyFile⟩, rfl, fields.isCa, ?_⟩
  rw [fields.usage, ofNames_caUsages]

theorem generate_eq_ok {document certificateFile keyFile : Octets} {lifetime : Duration}
    {usages : List String} {now : Instant} {environment after : Environment}
    {material : IssuedMaterial} (made : generate document certificateFile keyFile lifetime usages
      now environment = .ok material after) :
    ∃ (making : Making material) (holder : Authority) (before between : Environment),
      Authority.load certificateFile keyFile before = .ok holder between ∧
        making.issuer = .authority holder ∧ making.template.isCa = false := by
  rcases Operation.bind_eq_ok.mp made with ⟨request, _, _, made⟩
  rcases Operation.bind_eq_ok.mp made with ⟨holder, _, loaded, made⟩
  rcases Operation.bind_eq_ok.mp made with ⟨usage, _, _, made⟩
  rcases Operation.bind_eq_ok.mp made with ⟨key, _, keyMade, made⟩
  rcases Operation.bind_eq_ok.mp made with ⟨template, _, built, made⟩
  rcases Operation.bind_eq_ok.mp made with ⟨certificate, _, issued, made⟩
  have fields := CertificateTemplate.buildWith_eq_ok built
  rcases ofParts_eq_ok (Operation.ofExcept_eq_ok.mp made).1 with ⟨short, certificateFile, keyFile⟩
  have read := Certificate.isReadable_of_ofFile? (Authority.load_eq_ok.mp loaded).1
  exact ⟨⟨_, template, key, certificate, ⟨_, _, _, _, keyMade⟩, ⟨_, _, issued⟩, read.tbs.subject,
    fields.publicKey, fields.statesConstraints, short, certificateFile, keyFile⟩, holder, _, _,
    loaded, rfl, fields.isCa⟩

theorem generateCa_of_steps {document : Octets} {request : CertificateRequest}
    {lifetime : Duration} {now : Instant} {environment made last after : Environment} {key : Key}
    {template : CertificateTemplate} {certificate : Certificate}
    (parsed : CertificateRequest.parse document = .ok request)
    (keyMade : Key.generate request.keyAlgorithm request.keySize environment = .ok key made)
    (built : CertificateTemplate.build request key lifetime caUsages true now made =
      .ok template last)
    (issued : (Issuer.subject template.subject.toName key).issue template last =
      .ok certificate after)
    (short : certificate.encode.length ≤ Der.maxLength) :
    generateCa document lifetime now environment = .ok ⟨certificate.file, key.file⟩ after := by
  refine Operation.ofExcept_bind_eq_ok.mpr ⟨request, parsed, ?_⟩
  refine Operation.bind_eq_ok.mpr ⟨key, made, keyMade, ?_⟩
  refine Operation.bind_eq_ok.mpr ⟨template, last, built, ?_⟩
  refine Operation.bind_eq_ok.mpr ⟨certificate, after, issued, ?_⟩
  exact Operation.ofExcept_eq_ok.mpr ⟨if_pos short, rfl⟩

theorem generate_of_steps {document certificateFile keyFile : Octets}
    {request : CertificateRequest} {holder : Authority} {usages : List String} {usage : Usage}
    {lifetime : Duration} {now : Instant}
    {environment loaded looked made last after : Environment} {key : Key}
    {template : CertificateTemplate} {certificate : Certificate}
    (parsed : CertificateRequest.parse document = .ok request)
    (holderLoaded : Authority.load certificateFile keyFile environment = .ok holder loaded)
    (resolved : Usage.resolve usages loaded = .ok usage looked)
    (keyMade : Key.generate request.keyAlgorithm request.keySize looked = .ok key made)
    (built : CertificateTemplate.buildWith request key lifetime usage false now made =
      .ok template last)
    (issued : (Issuer.authority holder).issue template last = .ok certificate after)
    (short : certificate.encode.length ≤ Der.maxLength) :
    generate document certificateFile keyFile lifetime usages now environment =
      .ok ⟨certificate.file, key.file⟩ after := by
  refine Operation.ofExcept_bind_eq_ok.mpr ⟨request, parsed, ?_⟩
  refine Operation.bind_eq_ok.mpr ⟨holder, loaded, holderLoaded, ?_⟩
  refine Operation.bind_eq_ok.mpr ⟨usage, looked, resolved, ?_⟩
  refine Operation.bind_eq_ok.mpr ⟨key, made, keyMade, ?_⟩
  refine Operation.bind_eq_ok.mpr ⟨template, last, built, ?_⟩
  refine Operation.bind_eq_ok.mpr ⟨certificate, after, issued, ?_⟩
  exact Operation.ofExcept_eq_ok.mpr ⟨if_pos short, rfl⟩

/-! ## What is read from the files -/

namespace Making

variable {material : IssuedMaterial} (making : Making material)

theorem isReadable : making.certificate.IsReadable := by
  rcases making.issued with ⟨_, _, issued⟩
  exact (Issuer.isReadable_iff_of_issue issued).mpr
    (Issuer.isReadable_of_publicKey making.issuerName making.publicKey)

theorem ofFile?_certificate :
    Certificate.ofFile? material.certificate = some making.certificate := by
  rw [making.certificateFile, Certificate.ofFile?_file making.short, if_pos making.isReadable]

theorem ofFile_certificate : Certificate.ofFile material.certificate = .ok making.certificate := by
  rw [Certificate.ofFile, making.ofFile?_certificate]
  rfl

theorem load_privateKey (surroundings : Environment) :
    Key.load material.privateKey surroundings = .ok making.key { surroundings with
      events := surroundings.events ++ [.loadedKey making.key.pair.container] } := by
  rcases making.key_made with ⟨_, _, _, _, keyMade⟩
  rw [making.keyFile]
  exact Key.load_of_generate keyMade surroundings

theorem exists_says : ∃ keyId, making.issuer.keyId = .ok keyId ∧
    making.issuer.Says making.template keyId making.certificate := by
  rcases making.issued with ⟨_, _, issued⟩
  rcases Issuer.issue_eq_ok issued with ⟨issuance⟩
  have short := making.certificate.length_tbs_le.trans making.short
  exact ⟨issuance.keyId, issuance.keyId_found, issuance.says_template short⟩

theorem subject : making.certificate.tbs.subject = making.template.subject.toName := by
  rcases making.issued with ⟨_, _, issued⟩
  rcases Issuer.exists_stated_of_issue issued with ⟨_, _, ⟨stated⟩⟩
  exact stated.subject_eq

theorem certified : making.key.publicKeyInfo = making.certificate.tbs.publicKey := by
  rcases making.exists_says with ⟨_, _, wording⟩
  exact (wording.said.publicKey.trans making.publicKey).symm

/-- The certificate with its key. -/
def holder : Authority :=
  ⟨making.certificate, making.key⟩

/-- The files are accepted as those of an authority. -/
theorem load_holder (surroundings : Environment) :
    Authority.load material.certificate material.privateKey surroundings =
      .ok making.holder { surroundings with
        events := surroundings.events ++ [.loadedKey making.key.pair.container] } := by
  refine Operation.bind_eq_ok.mpr ⟨making.certificate, surroundings, ?_, ?_⟩
  · exact Operation.ofOption_eq_ok.mpr ⟨making.ofFile?_certificate, rfl⟩
  · refine Operation.bind_eq_ok.mpr ⟨making.key, _, making.load_privateKey surroundings, ?_⟩
    exact Operation.ofExcept_eq_ok.mpr ⟨if_pos making.certified, rfl⟩

end Making

end IssuedMaterial

/-! ## The chain -/

/-- The identifier that an authority states for its key is the digest of that key. -/
def Authority.keyId (holder : Authority) : Octets :=
  Hash.Sha1.sha1 holder.certificate.tbs.publicKey.key.octets

/-- What a certificate and that of its issuer have to do with each other. -/
structure Authority.IsIssuerOf (holder : Authority) (leaf : Certificate) : Prop where
  name : leaf.tbs.issuer.encode = holder.certificate.tbs.subject.encode
  subjectKeyId : holder.certificate.extensionValue SubjectKeyIdentifier = .ok (some ⟨holder.keyId⟩)
  authorityKeyId : leaf.extensionValue AuthorityKeyIdentifier = .ok (some ⟨holder.keyId⟩)
  innerAlgorithm : leaf.tbs.signatureAlgorithm = holder.key.signatureAlgorithm.identifier
  outerAlgorithm : leaf.signatureAlgorithm = holder.key.signatureAlgorithm.identifier
  leafConstraints : leaf.extensionValue BasicConstraints = .ok (some ⟨false, none⟩)
  constraints : holder.certificate.extensionValue BasicConstraints = .ok (some ⟨true, none⟩)
  keyUsage : holder.certificate.extensionValue KeyUsage =
    .ok (some (KeyUsage.ofList [.certificateSigning, .revocationSigning]))
  verdict : leaf.verifyIssuedBy holder.certificate = (Issuer.authority holder).verdict

namespace IssuedMaterial.Making

variable {material leafMaterial : IssuedMaterial} {making : Making material}

theorem keyId_holder :
    making.holder.certificate.extensionValue SubjectKeyIdentifier =
      .ok (if making.template.isCa then some ⟨making.holder.keyId⟩ else none) := by
  rcases making.exists_says with ⟨_, _, wording⟩
  have stated := wording.said.subjectKeyId
  rw [CertificateTemplate.subjectKeyId, ← wording.said.publicKey] at stated
  exact stated

/-- Authorities refer to their keys by identifiers, the holders of other certificates do not. -/
theorem keyId_authority : (Issuer.authority making.holder).keyId =
    .ok (if making.template.isCa then some making.holder.keyId else none) := by
  rw [Issuer.keyId, keyId_holder]
  cases making.template.isCa <;> rfl

theorem constraints_holder : making.holder.certificate.extensionValue BasicConstraints =
    .ok (some ⟨making.template.isCa, none⟩) := by
  rcases making.exists_says with ⟨_, _, wording⟩
  have stated := wording.said.constraints
  rw [making.statesConstraints] at stated
  exact stated

/-- The issuer of a certificate that was made is named in it and checked with its key. -/
theorem verifyIssuedBy_holder {signer : Authority} (issuer : making.issuer = .authority signer)
    (certified : signer.IsCertified) :
    making.certificate.tbs.issuer = signer.certificate.tbs.subject ∧
      making.certificate.verifyIssuedBy signer.certificate = (Issuer.authority signer).verdict := by
  rcases making.exists_says with ⟨_, _, wording⟩
  rcases making.issued with ⟨_, _, issued⟩
  rw [issuer] at issued wording
  have checked := Issuer.verifyIssuedBy_certificateFor issued certified
  rw [Issuer.certificateFor_authority] at checked
  exact ⟨wording.name, checked⟩

theorem isIssuerOf {leaf : Making leafMaterial} (isCa : making.template.isCa = true)
    (usage : making.template.usage = caUsage) (issuer : leaf.issuer = .authority making.holder)
    (isLeaf : leaf.template.isCa = false) : making.holder.IsIssuerOf leaf.certificate := by
  rcases making.exists_says with ⟨ownKeyId, _, own⟩
  rcases leaf.exists_says with ⟨keyId, found, wording⟩
  have sameKeyId : keyId = some making.holder.keyId := by
    rw [issuer, keyId_authority, if_pos isCa] at found
    exact (Except.ok.inj found).symm
  rcases verifyIssuedBy_holder issuer making.certified with ⟨name, checked⟩
  rw [issuer] at wording
  refine
    { name := congrArg X509.Name.encode name
      subjectKeyId := keyId_holder.trans (by rw [if_pos isCa])
      authorityKeyId := ?_
      innerAlgorithm := wording.innerAlgorithm
      outerAlgorithm := wording.outerAlgorithm
      leafConstraints := ?_
      constraints := ?_
      keyUsage := ?_
      verdict := checked }
  · rw [wording.said.authorityKeyId, sameKeyId]
    rfl
  · rw [← isLeaf]
    exact leaf.constraints_holder
  · rw [← isCa]
    exact making.constraints_holder
  · rw [holder, own.said.keyUsage, usage]
    rfl

/-- Making a certificate with files that were made fails for other reasons than the files. -/
theorem generate_failsWithin (making : Making material) (document : Octets)
    (lifetime : Duration) (usages : List String) (now : Instant) :
    Operation.FailsWithin (IsOfRequestOrKey making.key.pair)
      (generate document material.certificate material.privateKey lifetime usages now) := by
  refine (Operation.FailsWithin.ofExcept
    ((CertificateRequest.parse_failsWithin document).mono fun _ => Or.inl)).bind fun request => ?_
  refine Operation.FailsWithin.bind_of_ok ?_ fun environment holder between loaded => ?_
  · intro environment error after failed
    rw [making.load_holder environment] at failed
    cases failed
  · rw [making.load_holder environment] at loaded
    cases loaded
    apply ((Usage.resolve_failsWithin usages).mono fun _ => Or.inl).bind
    intro usage
    apply ((Key.generate_failsWithin _ _).mono fun _ => Or.inl).bind
    intro key
    refine ((CertificateTemplate.buildWith_failsWithin _ _ _ _ _ _).mono fun _ => Or.inl).bind
      fun template => ?_
    apply (Issuer.issue_failsWithin keyId_authority template).bind
    intro certificate
    exact Operation.FailsWithin.ofExcept
      ((ofParts_failsWithin certificate key).mono fun _ => Or.inl)

/-- A made RSA key of prime factors signs every message. -/
theorem not_refuses_rsa {rsaKey : Rsa.PrivateKey} (isRsa : making.key.pair = .rsa rsaKey)
    (first : rsaKey.firstFactor.Prime) (second : rsaKey.secondFactor.Prime) :
    ¬ making.key.pair.Refuses := by
  rcases making.key_made with ⟨_, _, _, _, keyMade⟩
  rcases (Key.isMade_of_generate keyMade).numbers rsaKey isRsa with ⟨made, large⟩
  rw [isRsa]
  exact KeyPair.not_refuses_rsa first second made.different large

/-- What is made with the files of an authority is issued by the authority. -/
theorem exists_leaf (isCa : making.template.isCa = true) (usage : making.template.usage = caUsage)
    {document : Octets} {lifetime : Duration} {usages : List String} {now : Instant}
    {environment after : Environment}
    (leafMade : generate document material.certificate material.privateKey lifetime usages now
      environment = .ok leafMaterial after) :
    ∃ leaf leafKey, Certificate.ofFile leafMaterial.certificate = .ok leaf ∧
      making.holder.IsIssuerOf leaf ∧
      (∀ surroundings, ∃ result,
        Key.load leafMaterial.privateKey surroundings = .ok leafKey result) ∧
      leafKey.publicKeyInfo = leaf.tbs.publicKey := by
  rcases generate_eq_ok leafMade with ⟨leaf, holder, _, _, loaded, issuer, isLeaf⟩
  rw [making.load_holder] at loaded
  cases loaded
  exact ⟨leaf.certificate, leaf.key, leaf.ofFile_certificate, isIssuerOf isCa usage issuer isLeaf,
    fun surroundings => ⟨_, leaf.load_privateKey surroundings⟩, leaf.certified⟩

end IssuedMaterial.Making

namespace IssuedMaterial

/-- The files of an authority that was made are those of an authority again; making certificates
with them fails for other reasons only; and these certificates are issued by the authority. -/
theorem generate_chains {document : Octets} {lifetime : Duration} {now : Instant}
    {environment after : Environment} {material : IssuedMaterial}
    (made : generateCa document lifetime now environment = .ok material after) :
    ∃ holder : Authority,
      Certificate.ofFile material.certificate = .ok holder.certificate ∧ holder.IsCertified ∧
      (∀ surroundings, ∃ result,
        Key.load material.privateKey surroundings = .ok holder.key result ∧
        Authority.load material.certificate material.privateKey surroundings =
          .ok holder result) ∧
      (∀ rsaKey, holder.key.pair = .rsa rsaKey → rsaKey.firstFactor.Prime →
        rsaKey.secondFactor.Prime → ¬ holder.key.pair.Refuses) ∧
      ∀ leafDocument leafLifetime usages leafNow,
        Operation.FailsWithin (IsOfRequestOrKey holder.key.pair) (generate leafDocument
          material.certificate material.privateKey leafLifetime usages leafNow) ∧
        ∀ before leafMaterial last, generate leafDocument material.certificate
            material.privateKey leafLifetime usages leafNow before = .ok leafMaterial last →
          ∃ leaf leafKey, Certificate.ofFile leafMaterial.certificate = .ok leaf ∧
            holder.IsIssuerOf leaf ∧
            (∀ surroundings, ∃ result,
              Key.load leafMaterial.privateKey surroundings = .ok leafKey result) ∧
            leafKey.publicKeyInfo = leaf.tbs.publicKey := by
  rcases generateCa_eq_ok made with ⟨making, _, isCa, usage⟩
  exact ⟨making.holder, making.ofFile_certificate, making.certified,
    fun surroundings =>
      ⟨_, making.load_privateKey surroundings, making.load_holder surroundings⟩,
    fun rsaKey isRsa first second => making.not_refuses_rsa isRsa first second,
    fun leafDocument leafLifetime usages leafNow =>
      ⟨making.generate_failsWithin _ _ _ _,
        fun before leafMaterial last leafMade => Making.exists_leaf isCa usage leafMade⟩⟩

end IssuedMaterial

/-! ### An authority and one certificate -/

/-- A request for a key of a number of bits. -/
def sampleDocument (bits : Nat) : Octets :=
  Text.utf8 ("keyAlgorithm: rsa\nkeySize: " ++ Nat.repr bits ++ "\ncommonName: ca\n")

/-- What the request says. -/
def sampleRequest (bits : Nat) : CertificateRequest :=
  { keyAlgorithm := .rsa
    keySize := bits
    commonName := "ca"
    names := []
    hosts := []
    serialNumber := "" }

/-- The start of 2026. -/
def sampleNow : Instant := ⟨1767225600000000000, 0, by decide⟩

/-- The usual period from then on. -/
def sampleValidity : Validity :=
  ⟨⟨1767225300000000000, 0, by decide⟩, ⟨2082585600000000000, 0, by decide⟩⟩

theorem validityFrom_sampleNow :
    CertificateTemplate.validityFrom sampleNow (Duration.ofSeconds 0) = .ok sampleValidity := by
  rfl

/-- The template for the key of a supply. -/
def sampleTemplate (key : Rsa.PrivateKey) (bits : Nat) (entropy : Entropy) (usage : Usage)
    (isCa : Bool) : CertificateTemplate :=
  { serialNumber :=
      CertificateTemplate.serialOfEntropy ((Rsa.afterFactors bits entropy).take 8).1
    subject := (sampleRequest bits).subject
    publicKey := (KeyPair.rsa key).publicKeyInfo
    hosts := Hosts.classify []
    validity := sampleValidity
    usage
    statesConstraints := true
    isCa }

/-- The usage of the certificate. -/
def sampleUsage : Usage := ⟨KeyUsage.ofList [.digitalSignature], []⟩

/-- What a key, its size and its supply have to be for the request to be served. -/
structure IsSample (key : Rsa.PrivateKey) (bits : Nat) (entropy : Entropy) : Prop where
  isFirst : key.IsFirstOf bits entropy
  many : 8 * KeyPair.longestPadding ≤ bits
  accepted : KeyAlgorithm.rsa.acceptsSize bits = true
  parsed : CertificateRequest.parse (sampleDocument bits) = .ok (sampleRequest bits)
  ca_isShort : (sampleTemplate key bits entropy IssuedMaterial.caUsage true).isShort
    (sampleRequest bits).subject.toName (KeyPair.rsa key).signatureAlgorithm none
    key.publicKey.size = true
  leaf_isShort : (sampleTemplate key bits entropy sampleUsage false).isShort
    (sampleRequest bits).subject.toName (KeyPair.rsa key).signatureAlgorithm
    (some (CertificateTemplate.keyIdentifier (KeyPair.rsa key).publicKeyInfo))
    key.publicKey.size = true

theorem isSample_usualKey : IsSample Rsa.usualKey 2048 Rsa.usualEntropy where
  isFirst := Rsa.usualKey_isFirst
  many := by decide
  accepted := by decide
  parsed := by decide +kernel
  ca_isShort := by decide +kernel
  leaf_isShort := by decide +kernel

theorem isSample_longKey : IsSample Rsa.longKey 4112 Rsa.longEntropy where
  isFirst := Rsa.longKey_isFirst
  many := by decide
  accepted := by decide
  parsed := by decide +kernel
  ca_isShort := by decide +kernel
  leaf_isShort := by decide +kernel

namespace IssuedMaterial

section Sample

variable {key : Rsa.PrivateKey} {bits : Nat} {entropy : Entropy}

/-- The surroundings when the template for the key of the supply is built. -/
def sampleEnvironment (bits : Nat) (entropy : Entropy) (events : List Event) : Environment :=
  ⟨((Rsa.afterFactors bits entropy).take 8).2, events ++ [.generatingKey .rsa bits]⟩

theorem buildWith_sampleRequest (key : Rsa.PrivateKey) (bits : Nat) (entropy : Entropy)
    (usage : Usage) (isCa : Bool) (events : List Event) :
    CertificateTemplate.buildWith (sampleRequest bits)
        (Key.ofPair (.rsa key) (KeyPair.rsa key).file) (Duration.ofSeconds 0) usage isCa sampleNow
        ⟨Rsa.afterFactors bits entropy, events ++ [.generatingKey .rsa bits]⟩ =
      .ok (sampleTemplate key bits entropy usage isCa) (sampleEnvironment bits entropy events) :=
  CertificateTemplate.buildWith_of_validityFrom validityFrom_sampleNow _ _ _ _ _

/-- The key of the supply with its file. -/
def sampleKey (key : Rsa.PrivateKey) : Key :=
  Key.ofPair (.rsa key) (KeyPair.rsa key).file

/-- The authority is made of the supply. -/
theorem exists_generateCa (isSample : IsSample key bits entropy) (events : List Event) :
    ∃ material after,
      generateCa (sampleDocument bits) (Duration.ofSeconds 0) sampleNow ⟨entropy, events⟩ =
        .ok material after ∧
      after.entropy = ((Rsa.afterFactors bits entropy).take 8).2 ∧
      ∃ making : Making material, making.key = sampleKey key ∧
        making.template = sampleTemplate key bits entropy caUsage true := by
  have keyMade := Key.generate_of_isFirst isSample.isFirst isSample.accepted events
  have resolved : ∀ environment, Usage.resolve caUsages environment = .ok caUsage environment :=
    Usage.resolve_of_known (by decide) (by decide)
  have built : CertificateTemplate.build (sampleRequest bits) (sampleKey key)
      (Duration.ofSeconds 0) caUsages true sampleNow
      ⟨Rsa.afterFactors bits entropy, events ++ [.generatingKey .rsa bits]⟩ =
        .ok (sampleTemplate key bits entropy caUsage true)
          (sampleEnvironment bits entropy events) :=
    Operation.bind_eq_ok.mpr
      ⟨caUsage, _, resolved _, buildWith_sampleRequest key bits entropy caUsage true events⟩
  have signs := KeyPair.exists_sign_of_isFirst isSample.isFirst isSample.many
  obtain ⟨certificate, after, issued, short, unused⟩ : ∃ certificate after,
      (Issuer.subject (sampleRequest bits).subject.toName (sampleKey key)).issue
        (sampleTemplate key bits entropy caUsage true) (sampleEnvironment bits entropy events) =
          .ok certificate after ∧ certificate.encode.length ≤ Der.maxLength ∧
            after.entropy = ((Rsa.afterFactors bits entropy).take 8).2 :=
    Issuer.exists_issue (fun message => signs message _) rfl isSample.ca_isShort
  exact ⟨_, after, generateCa_of_steps isSample.parsed keyMade built issued short, unused,
    ⟨_, _, sampleKey key, certificate, ⟨_, _, _, _, keyMade⟩, ⟨_, _, issued⟩,
      DistinguishedName.isReadable_toName _, rfl, rfl, short, rfl, rfl⟩, rfl, rfl⟩

/-- The holder of a certificate with the subject of the request makes another one of the supply. -/
theorem exists_generate_of_keyId {material : IssuedMaterial} {making : Making material}
    {keyId : Option Octets} (isSample : IsSample key bits entropy)
    (keyMade : making.key = sampleKey key)
    (subject : making.template.subject = (sampleRequest bits).subject)
    (found : (Issuer.authority making.holder).keyId = .ok keyId)
    (isShort : (sampleTemplate key bits entropy sampleUsage false).isShort
      (sampleRequest bits).subject.toName (KeyPair.rsa key).signatureAlgorithm keyId
      key.publicKey.size = true) (events : List Event) :
    ∃ leafMaterial after,
      generate (sampleDocument bits) material.certificate material.privateKey
          (Duration.ofSeconds 0) ["signing"] sampleNow ⟨entropy, events⟩ =
        .ok leafMaterial after ∧
      after.entropy = ((Rsa.afterFactors bits entropy).take 8).2 ∧
      ∃ leaf : Making leafMaterial, leaf.key = sampleKey key ∧
        leaf.template = sampleTemplate key bits entropy sampleUsage false := by
  have holderLoaded := making.load_holder ⟨entropy, events⟩
  generalize events ++ [Event.loadedKey making.key.pair.container] = events at holderLoaded
  have resolved : Usage.resolve ["signing"] ⟨entropy, events⟩ = .ok sampleUsage ⟨entropy, events⟩ :=
    Usage.resolve_of_known (by decide) (by decide) _
  have leafKeyMade := Key.generate_of_isFirst isSample.isFirst isSample.accepted events
  have leafBuilt := buildWith_sampleRequest key bits entropy sampleUsage false events
  have issuerName : (Issuer.authority making.holder).name =
      (sampleRequest bits).subject.toName := by
    rw [Issuer.name, Making.holder, making.subject, subject]
  have issuerKey : (Issuer.authority making.holder).key = sampleKey key := keyMade
  have isShort : (sampleTemplate key bits entropy sampleUsage false).isShort
      (Issuer.authority making.holder).name
      (Issuer.authority making.holder).key.pair.signatureAlgorithm keyId
      key.publicKey.size = true := by
    rw [issuerKey, issuerName]
    exact isShort
  have signs : ∀ message, ∃ signature,
      (Issuer.authority making.holder).key.pair.sign message
          (sampleEnvironment bits entropy events) =
        .ok signature (sampleEnvironment bits entropy events) ∧
          signature.length = key.publicKey.size := by
    rw [issuerKey]
    intro message
    exact KeyPair.exists_sign_of_isFirst isSample.isFirst isSample.many message _
  rcases Issuer.exists_issue signs found isShort with ⟨certificate, after, issued, short, unused⟩
  exact ⟨_, after,
    generate_of_steps isSample.parsed holderLoaded resolved leafKeyMade leafBuilt issued short,
    unused, ⟨_, _, sampleKey key, certificate, ⟨_, _, _, _, leafKeyMade⟩, ⟨_, _, issued⟩,
      issuerName ▸ DistinguishedName.isReadable_toName _, rfl, rfl, short, rfl, rfl⟩, rfl, rfl⟩

/-- The authority that was made for the request makes a certificate of the supply. -/
theorem exists_generate {material : IssuedMaterial} {making : Making material} {earlier : Entropy}
    (isSample : IsSample key bits entropy) (keyMade : making.key = sampleKey key)
    (built : making.template = sampleTemplate key bits earlier caUsage true)
    (events : List Event) :
    ∃ leafMaterial after,
      generate (sampleDocument bits) material.certificate material.privateKey
          (Duration.ofSeconds 0) ["signing"] sampleNow ⟨entropy, events⟩ =
        .ok leafMaterial after ∧
      after.entropy = ((Rsa.afterFactors bits entropy).take 8).2 ∧
      ∃ leaf : Making leafMaterial, leaf.key = sampleKey key ∧
        leaf.template = sampleTemplate key bits entropy sampleUsage false := by
  have publicKey : making.certificate.tbs.publicKey = (KeyPair.rsa key).publicKeyInfo := by
    rw [← making.certified, keyMade]
    rfl
  have keyId : (Issuer.authority making.holder).keyId =
      .ok (some (CertificateTemplate.keyIdentifier (KeyPair.rsa key).publicKeyInfo)) := by
    rw [Making.keyId_authority, Authority.keyId, Making.holder, publicKey, built]
    rfl
  exact exists_generate_of_keyId isSample keyMade (by rw [built]; rfl) keyId isSample.leaf_isShort
    events

end Sample

/-- An authority of 2048 bits issues a certificate that is accepted. -/
theorem usualKey_chains : ∃ material after leafMaterial last holder leaf,
    generateCa (sampleDocument 2048) (Duration.ofSeconds 0) sampleNow ⟨Rsa.usualEntropy, []⟩ =
        .ok material after ∧
      generate (sampleDocument 2048) material.certificate material.privateKey
        (Duration.ofSeconds 0) ["signing"] sampleNow ⟨Rsa.usualEntropy, []⟩ =
          .ok leafMaterial last ∧
        Certificate.ofFile leafMaterial.certificate = .ok leaf ∧
          Authority.IsIssuerOf holder leaf ∧ leaf.verifyIssuedBy holder.certificate = .ok () := by
  rcases exists_generateCa isSample_usualKey [] with
    ⟨material, after, made, _, making, keyMade, built⟩
  rcases exists_generate isSample_usualKey keyMade built [] with ⟨leafMaterial, last, leafMade, _⟩
  rcases generate_chains made with ⟨holder, _, _, loads, _, leaves⟩
  rcases (leaves _ _ _ _).2 _ _ _ leafMade with ⟨leaf, _, read, issues, _⟩
  refine ⟨material, after, leafMaterial, last, holder, leaf, made, leafMade, read, issues, ?_⟩
  have sameKey : holder.key = sampleKey Rsa.usualKey := by
    rcases loads ⟨Rsa.usualEntropy, []⟩ with ⟨_, loaded, _⟩
    rw [making.load_privateKey, keyMade] at loaded
    exact (EStateM.Result.ok.inj loaded).1.symm
  rw [issues.verdict, Issuer.verdict, Issuer.key, sameKey]
  exact if_neg KeyPair.not_isUnchecked_usualKey

/-- An authority of 4112 bits issues a certificate that is not accepted. -/
theorem longKey_is_refused : ∃ material after leafMaterial last ca leaf,
    generateCa (sampleDocument 4112) (Duration.ofSeconds 0) sampleNow ⟨Rsa.longEntropy, []⟩ =
        .ok material after ∧
      generate (sampleDocument 4112) material.certificate material.privateKey
        (Duration.ofSeconds 0) ["signing"] sampleNow ⟨Rsa.longEntropy, []⟩ =
          .ok leafMaterial last ∧
        Certificate.ofFile material.certificate = .ok ca ∧
          Certificate.ofFile leafMaterial.certificate = .ok leaf ∧
            leaf.verifyIssuedBy ca = .error .malformedPublicKey := by
  rcases exists_generateCa isSample_longKey [] with
    ⟨material, after, made, _, making, keyMade, built⟩
  rcases exists_generate isSample_longKey keyMade built [] with ⟨leafMaterial, last, leafMade, _⟩
  have isCa : making.template.isCa = true := by
    rw [built]
    rfl
  have usage : making.template.usage = caUsage := by
    rw [built]
    rfl
  rcases Making.exists_leaf isCa usage leafMade with ⟨leaf, _, read, issues, _⟩
  refine ⟨material, after, leafMaterial, last, making.certificate, leaf, made, leafMade,
    making.ofFile_certificate, read, issues.verdict.trans (if_pos ?_)⟩
  have sameKey : (Issuer.authority making.holder).key = sampleKey Rsa.longKey := keyMade
  rw [sameKey]
  exact KeyPair.isUnchecked_longKey

end IssuedMaterial

end CertAuthority
