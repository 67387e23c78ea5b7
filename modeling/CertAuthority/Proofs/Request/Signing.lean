import CertAuthority.Proofs.DeclaredKey
import CertAuthority.Proofs.Host.Classification
import CertAuthority.Proofs.Issuance.FirstFailure
import CertAuthority.Proofs.X509.CertificationRequest

/-!
# Signed requests

A certification request is made of a signed part that can be written down
(`plainInfo`) and of a signature over its octets.  It is read back from its file
and asks for what a certificate for the same request and key says: the subject,
the public key and the alternative names are the same, and the names that cannot
be written keep both from being made.
-/

namespace CertAuthority

open X509 (Certificate CertificationRequest CertificationRequestInfo Extension RequestAttribute)

/-! ## Hosts -/

namespace Hosts

theorem isEmpty_alternativeNames (hosts : Hosts) :
    hosts.alternativeNames.isEmpty = hosts.isEmpty := by
  unfold alternativeNames
  split
  · rename_i empty
    exact empty.symm
  · rename_i some
    exact (Bool.eq_false_iff.mpr some).symm

theorem oid_of_mem_alternativeNames {hosts : Hosts} {extension : Extension}
    (member : extension ∈ hosts.alternativeNames) : extension.oid = oid := by
  unfold alternativeNames at member
  split at member
  · cases member
  · rw [List.mem_singleton.mp member]

end Hosts

/-! ## Issued certificates -/

/-- The alternative names in an issued certificate are those of its template. -/
theorem Issuer.alternativeNames_of_issue {issuer : Issuer} {template : CertificateTemplate}
    {environment after : Environment} {certificate : Certificate}
    (issued : issuer.issue template environment = .ok certificate after) :
    certificate.extensions.filter (·.oid = Hosts.oid) = template.hosts.alternativeNames := by
  rcases exists_stated_of_issue issued with ⟨keyId, _, ⟨stated⟩⟩
  rcases template.exists_extensions_eq keyId with ⟨others, otherOids, written⟩
  have own : template.hosts.alternativeNames.filter (·.oid = Hosts.oid) =
      template.hosts.alternativeNames := by
    rw [List.filter_eq_self]
    intro extension member
    simpa using Hosts.oid_of_mem_alternativeNames member
  have none : others.filter (·.oid = Hosts.oid) = [] := by
    rw [List.filter_eq_nil_iff]
    intro extension member
    simpa using otherOids extension member
  have extensions : certificate.extensions = stated.extensions :=
    congrArg (·.getD []) stated.extensions_eq
  have found := written.symm.trans stated.extensions_written
  rw [Hosts.toExtensions_eq] at found
  cases foreign : template.hosts.firstForeign? with
  | some name =>
      rw [foreign] at found
      cases found
  | none =>
      rw [foreign] at found
      rw [extensions, ← Except.ok.inj found, List.filter_append, none, own, List.nil_append]

/-! ## Reading requests -/

namespace X509.CertificationRequest

/-- Reads a request from a file. -/
def ofFile? (file : Octets) : Option CertificationRequest := do
  let (request, _) ← decode (← Pem.decode? "CERTIFICATE REQUEST" file)
  return request

theorem ofFile?_file {request : CertificationRequest} (info : request.info.IsReadable)
    (algorithm : request.signatureAlgorithm.IsReadable)
    (bound : request.encode.length ≤ Der.maxLength) :
    ofFile? request.file = some request := by
  have whole := (reads info algorithm).fills bound
  have block : Pem.decode? "CERTIFICATE REQUEST" request.file = some request.encode :=
    Pem.decode?_encode "CERTIFICATE REQUEST" (Der.encode_ne_nil _ _)
  rw [ofFile?, block]
  simp only [Option.bind_eq_bind, Option.bind_some, whole]
  rfl

/-- Whether the signature is one of the octets of the signed part, made with the declared key. -/
def IsSigned (request : CertificationRequest) : Prop :=
  ∃ key algorithm, request.info.publicKey.declaredKey? = some key ∧
    SignatureAlgorithm.ofOid? request.signatureAlgorithm.oid = some algorithm ∧
      key.verify algorithm request.info.encode request.signature.octets = true

end X509.CertificationRequest

/-! ## Making requests -/

namespace CertificateRequest

/-- The extensions that a request asks for, if its hosts can be written. -/
def wantedExtensions (request : CertificateRequest) (extra : List Extension) : List Extension :=
  (Hosts.classify request.hosts).alternativeNames ++ extra

/-- The signed part of a request whose hosts can be written. -/
def plainInfo (request : CertificateRequest) (key : Key) (extra : List Extension) :
    CertificationRequestInfo where
  subject := request.subject.toName
  publicKey := key.publicKeyInfo
  requestAttributes :=
    if (request.wantedExtensions extra).isEmpty then []
    else [RequestAttribute.ofExtensions (request.wantedExtensions extra)]

variable {request : CertificateRequest} {key : Key} {extra : List Extension}
  {environment after : Environment} {signed : CertificationRequest} {error : Error}

theorem signingInfo_eq (request : CertificateRequest) (key : Key) (extra : List Extension) :
    request.signingInfo key extra =
      match (Hosts.classify request.hosts).firstForeign? with
      | some name => .error (.notAscii name)
      | none => .ok (request.plainInfo key extra) := by
  rw [signingInfo, Hosts.toExtensions_eq]
  cases (Hosts.classify request.hosts).firstForeign? <;> rfl

theorem toSigned_eq (request : CertificateRequest) (key : Key) (extra : List Extension) :
    request.toSigned key extra =
      match (Hosts.classify request.hosts).firstForeign? with
      | some name => throw (.notAscii name)
      | none => do
          let signature ← key.sign (request.plainInfo key extra).encode
          return ⟨request.plainInfo key extra, key.signatureAlgorithm.identifier,
            Der.BitString.ofOctets signature⟩ := by
  simp only [toSigned, signingInfo_eq, Key.takeAlgorithm_eq]
  cases (Hosts.classify request.hosts).firstForeign? <;> rfl

/-- A request is made of its signed part and of a signature over the octets of that part. -/
theorem toSigned_eq_ok :
    request.toSigned key extra environment = .ok signed after ↔
      (Hosts.classify request.hosts).firstForeign? = none ∧ ∃ signature,
        key.sign (request.plainInfo key extra).encode environment = .ok signature after ∧
          signed = ⟨request.plainInfo key extra, key.signatureAlgorithm.identifier,
            Der.BitString.ofOctets signature⟩ := by
  rw [toSigned_eq]
  cases (Hosts.classify request.hosts).firstForeign? with
  | some name =>
      constructor
      · intro contrary
        cases contrary
      · rintro ⟨contrary, _⟩
        cases contrary
  | none =>
      constructor
      · intro made
        rcases Operation.bind_eq_ok.mp made with ⟨signature, between, genuine, made⟩
        rcases Operation.pure_eq_ok.mp made with ⟨rfl, rfl⟩
        exact ⟨rfl, signature, genuine, rfl⟩
      · rintro ⟨_, signature, genuine, rfl⟩
        exact Operation.bind_eq_ok.mpr ⟨signature, after, genuine, rfl⟩

/-- A request is not made if a host cannot be written, or else if the key does not sign. -/
theorem toSigned_eq_error :
    request.toSigned key extra environment = .error error after ↔
      (∃ name, (Hosts.classify request.hosts).firstForeign? = some name ∧
          error = .notAscii name) ∧ environment = after ∨
        (Hosts.classify request.hosts).firstForeign? = none ∧
          key.sign (request.plainInfo key extra).encode environment = .error error after := by
  rw [toSigned_eq]
  cases (Hosts.classify request.hosts).firstForeign? with
  | some name =>
      constructor
      · intro failed
        cases failed
        exact .inl ⟨⟨name, rfl, rfl⟩, rfl⟩
      · rintro (⟨⟨found, same, rfl⟩, rfl⟩ | ⟨contrary, _⟩)
        · cases same
          rfl
        · cases contrary
  | none =>
      constructor
      · intro failed
        rcases Operation.bind_eq_error.mp failed with refused | ⟨_, _, _, contrary⟩
        · exact .inr ⟨rfl, refused⟩
        · exact absurd contrary Operation.pure_ne_error
      · rintro (⟨⟨_, contrary, _⟩, _⟩ | ⟨_, refused⟩)
        · cases contrary
        · exact Operation.bind_eq_error.mpr (.inl refused)

theorem isReadable_plainInfo (request : CertificateRequest) (key : Key) (extra : List Extension) :
    (request.plainInfo key extra).IsReadable where
  subject := request.subject.isReadable_toName
  publicKey := key.pair.isReadable_publicKeyInfo
  each := by
    intro item member
    unfold plainInfo at member
    split at member
    · cases member
    · rw [List.mem_singleton.mp member]
      exact RequestAttribute.isReadable_ofExtensions _
  ascending := by
    unfold plainInfo
    split
    · exact List.Pairwise.nil
    · exact List.pairwise_singleton _ _

/-- There are no attributes if there is nothing to ask for. -/
theorem requestAttributes_plainInfo :
    (request.plainInfo key extra).requestAttributes = [] ↔ request.hosts = [] ∧ extra = [] := by
  have wanted : (request.wantedExtensions extra).isEmpty = true ↔
      request.hosts = [] ∧ extra = [] := by
    rw [List.isEmpty_iff, wantedExtensions, List.append_eq_nil_iff, ← List.isEmpty_iff,
      Hosts.isEmpty_alternativeNames, Hosts.isEmpty_classify, List.isEmpty_iff]
  rw [← wanted, plainInfo]
  split
  · rename_i nothing
    exact iff_of_true rfl nothing
  · rename_i something
    exact iff_of_false (List.cons_ne_nil _ _) something

/-- The extensions are read with every decoder that reads their identifiers. -/
theorem extensionsWith?_of_info {identifier : Der.Decoder Der.Oid}
    (info : signed.info = request.plainInfo key extra)
    (readable : ∀ extension ∈ request.wantedExtensions extra,
      Der.Reads identifier extension.oid.encode extension.oid)
    (short : signed.encode.length ≤ Der.maxLength) :
    signed.extensionsWith? identifier = some (request.wantedExtensions extra) := by
  have items : signed.info.requestAttributes =
      if (request.wantedExtensions extra).isEmpty then []
      else [RequestAttribute.ofExtensions (request.wantedExtensions extra)] := by
    rw [info]
    rfl
  rw [CertificationRequest.extensionsWith?]
  split at items
  · rename_i nothing
    rw [items, List.isEmpty_iff.mp nothing]
    rfl
  · have inside : (RequestAttribute.ofExtensions (request.wantedExtensions extra)).encode <:+:
        signed.encode := CertificationRequest.attribute_infix (items ▸ List.mem_singleton_self _)
    have bound := ((RequestAttribute.encodeList_infix _).trans inside).length_le.trans short
    rw [items]
    exact (Extension.reads_listWith readable).complete bound

/-- What a certification request says, and that it is signed with its key. -/
structure IsAskedBy (request : CertificateRequest) (key : Key) (extra : List Extension)
    (signed : CertificationRequest) : Prop where
  subject : signed.info.subject = request.subject.toName
  publicKey : signed.info.publicKey = key.publicKeyInfo
  requestAttributes : signed.info.requestAttributes = [] ↔ request.hosts = [] ∧ extra = []
  names : (Hosts.classify request.hosts).toExtensions =
    .ok (Hosts.classify request.hosts).alternativeNames
  extensions : signed.extensionsWith? Der.Oid.decodeAny = some (request.wantedExtensions extra)
  usualExtensions : (∀ extension ∈ extra, extension.oid.isReadable = true) →
    signed.extensions? = some (request.wantedExtensions extra)
  algorithm : signed.signatureAlgorithm = key.signatureAlgorithm.identifier
  isSigned : signed.IsSigned

theorem isAskedBy_of_toSigned
    (made : request.toSigned key extra environment = .ok signed after)
    (short : signed.encode.length ≤ Der.maxLength) : request.IsAskedBy key extra signed := by
  rcases toSigned_eq_ok.mp made with ⟨plain, signature, genuine, rfl⟩
  have publicKeyShort := (CertificationRequest.publicKey_infix
    ⟨request.plainInfo key extra, key.signatureAlgorithm.identifier,
      Der.BitString.ofOctets signature⟩).length_le.trans short
  refine ⟨rfl, rfl, requestAttributes_plainInfo, ?_, ?_, ?_, rfl, ?_⟩
  · rw [Hosts.toExtensions_eq, plain]
  · exact extensionsWith?_of_info rfl (fun extension _ => Der.Oid.reads_any extension.oid) short
  · intro readable
    rw [← CertificationRequest.extensionsWith?_usual]
    refine extensionsWith?_of_info rfl (fun extension member => Der.reads_oid ?_) short
    rcases List.mem_append.mp member with named | added
    · rw [Hosts.oid_of_mem_alternativeNames named]
      decide
    · exact readable extension added
  · exact ⟨key.pair.publicKey, key.signatureAlgorithm,
      KeyPair.declaredKey?_publicKeyInfo publicKeyShort, SignatureAlgorithm.ofOid?_oid _,
      Key.verify_of_sign genuine⟩

/-- A request is not made for a name if it is the first that cannot be written. -/
theorem toSigned_eq_notAscii {name : String} :
    request.toSigned key extra environment = .error (.notAscii name) after ↔
      (Hosts.classify request.hosts).firstForeign? = some name ∧ environment = after := by
  rw [toSigned_eq_error]
  constructor
  · rintro (⟨⟨found, first, same⟩, unchanged⟩ | ⟨_, refused⟩)
    · cases same
      exact ⟨first, unchanged⟩
    · cases (key.sign_failsWithin _ _ _ _ refused).1
  · rintro ⟨first, unchanged⟩
    exact .inl ⟨⟨name, first, rfl⟩, unchanged⟩

section Template

variable {template : CertificateTemplate} {lifetime : Duration} {usage : Usage} {isCa : Bool}
  {now : Instant} {issuer : Issuer} {start final : Environment} {certificate : Certificate}

/-- A certificate for the request says what the request asks for. -/
theorem IsAskedBy.is_said_by_certificate (asked : request.IsAskedBy key extra signed)
    (fields : template.IsBuiltFrom request key lifetime usage isCa now)
    (issued : issuer.issue template start = .ok certificate final) :
    certificate.tbs.subject = signed.info.subject ∧
      certificate.tbs.publicKey = signed.info.publicKey ∧
        signed.extensionsWith? Der.Oid.decodeAny =
          some (certificate.extensions.filter (·.oid = Hosts.oid) ++ extra) := by
  rcases Issuer.exists_stated_of_issue issued with ⟨_, _, ⟨stated⟩⟩
  refine ⟨?_, ?_, ?_⟩
  · rw [stated.subject_eq, fields.subject, asked.subject]
  · rw [stated.publicKey_eq, fields.publicKey, asked.publicKey]
  · rw [asked.extensions, Issuer.alternativeNames_of_issue issued, fields.hosts]
    rfl

end Template

/-- A certification request is read back from its file and asks for what certificates say that are
issued for the same request and key.  Both fail for the same host, whatever the issuer is, unless
the identifier of its own key cannot be read: issuing then fails before it comes to the hosts. -/
theorem toSigned_agrees_with_issue (request : CertificateRequest) (key : Key)
    (extra : List Extension) :
    (∀ environment signed after, request.toSigned key extra environment = .ok signed after →
      signed.encode.length ≤ Der.maxLength →
        CertificationRequest.ofFile? signed.file = some signed ∧
          request.IsAskedBy key extra signed) ∧
    ∀ lifetime usages isCa now before template between,
      CertificateTemplate.build request key lifetime usages isCa now before =
          .ok template between → ∀ issuer : Issuer,
        (∀ environment signed after start certificate final,
          request.toSigned key extra environment = .ok signed after →
          signed.encode.length ≤ Der.maxLength →
          issuer.issue template start = .ok certificate final →
            certificate.tbs.subject = signed.info.subject ∧
              certificate.tbs.publicKey = signed.info.publicKey ∧
                signed.extensionsWith? Der.Oid.decodeAny =
                  some (certificate.extensions.filter (·.oid = Hosts.oid) ++ extra)) ∧
        ∀ environment start name,
          ((∃ final, issuer.issue template start = .error (.notAscii name) final) →
            ∃ after, request.toSigned key extra environment = .error (.notAscii name) after) ∧
          ((∃ after, request.toSigned key extra environment = .error (.notAscii name) after) →
            ∃ error final, issuer.issue template start = .error error final ∧
              (error = .notAscii name ∨ issuer.keyId = .error error)) := by
  refine ⟨?_, ?_⟩
  · intro environment signed after made short
    have asked := isAskedBy_of_toSigned made short
    rcases toSigned_eq_ok.mp made with ⟨_, signature, _, rfl⟩
    exact ⟨CertificationRequest.ofFile?_file (isReadable_plainInfo request key extra)
      key.signatureAlgorithm.isReadable_identifier short, asked⟩
  · intro lifetime usages isCa now before template between built issuer
    have fields := CertificateTemplate.build_eq_ok built
    refine ⟨?_, ?_⟩
    · intro environment signed after start certificate final made short issued
      exact (isAskedBy_of_toSigned made short).is_said_by_certificate fields issued
    · intro environment start name
      simp only [toSigned_eq_notAscii, ← fields.hosts]
      constructor
      · rintro ⟨final, failed⟩
        exact ⟨environment, (Issuer.issue_eq_notAscii.mp failed).2.1, rfl⟩
      · rintro ⟨_, first, _⟩
        exact Issuer.exists_error_of_foreign first

/-- A request whose hosts can be written is signed by every key pair that signs everything. -/
theorem exists_toSigned {size : Nat}
    (signs : ∀ message, ∃ signature,
      key.pair.sign message environment = .ok signature environment ∧ signature.length = size)
    (plain : (Hosts.classify request.hosts).firstForeign? = none)
    (short : (request.plainInfo key extra).encode.length + size ≤ 1000000) :
    ∃ signed, request.toSigned key extra environment = .ok signed environment ∧
      signed.encode.length ≤ Der.maxLength := by
  rcases signs (request.plainInfo key extra).encode with ⟨signature, genuine, rfl⟩
  rw [← Key.sign_eq] at genuine
  exact ⟨_, toSigned_eq_ok.mpr ⟨plain, signature, genuine, rfl⟩,
    key.signatureAlgorithm.length_signed_le short⟩

end CertificateRequest

/-! ### A request and a template -/

/-- A request for two hosts. -/
def hostsRequest : CertificateRequest :=
  { keyAlgorithm := .rsa
    keySize := 2048
    commonName := "leaf"
    names := []
    hosts := ["192.0.2.1", "a.example"]
    serialNumber := "" }

/-- Ten years, from five minutes before the end of the first hour of 1970. -/
def hostsValidity : Validity :=
  ⟨⟨3300000000000, 0, by decide⟩, ⟨315363600000000000, 0, by decide⟩⟩

/-- The template of the request for a key, an hour after the start of 1970. -/
def hostsTemplate (key : KeyPair) : CertificateTemplate :=
  { serialNumber := 0
    subject := hostsRequest.subject
    publicKey := key.publicKeyInfo
    hosts := Hosts.classify hostsRequest.hosts
    validity := hostsValidity
    usage := Usage.ofNames ["server auth"]
    statesConstraints := true
    isCa := false }

theorem build_hostsRequest (pair : KeyPair) : ∃ between,
    CertificateTemplate.build hostsRequest (Key.ofPair pair []) ⟨0⟩ ["server auth"] false
      ⟨3600000000000, 0, by decide⟩ exampleEnvironment = .ok (hostsTemplate pair) between := by
  have written : CertificateTemplate.validityFrom ⟨3600000000000, 0, by decide⟩ ⟨0⟩ =
      .ok hostsValidity := by decide
  exact ⟨_, Operation.bind_eq_ok.mpr ⟨_, _, Usage.resolve_of_known (by decide) (by decide) _,
    CertificateTemplate.buildWith_of_validityFrom written _ _ _ _ _⟩⟩

/-- The request of a key of 2048 bits for an authority asks for what its certificate says, and a
request for a name that cannot be written is refused as its template is. -/
theorem hostsRequest_agrees_with_issue :
    (∃ signed after certificate final,
      hostsRequest.toSigned (Key.ofPair (.rsa Rsa.usualKey) []) [caExtension] exampleEnvironment =
          .ok signed after ∧
        (exampleIssuer (.rsa Rsa.usualKey)).issue (hostsTemplate (.rsa Rsa.usualKey))
            exampleEnvironment = .ok certificate final ∧
          CertificationRequest.ofFile? signed.file = some signed ∧
            signed.extensions? = some (hostsRequest.wantedExtensions [caExtension]) ∧
              certificate.tbs.subject = signed.info.subject ∧
                certificate.tbs.publicKey = signed.info.publicKey) ∧
      ∃ after template final,
        foreignRequest.toSigned (Key.ofPair (.rsa Rsa.usualKey) []) [] exampleEnvironment =
            .error (.notAscii "münchen.example") after ∧
          (exampleIssuer (.rsa Rsa.usualKey)).issue template exampleEnvironment =
            .error (.notAscii "münchen.example") final := by
  constructor
  · have signs := KeyPair.exists_sign_of_isFirst Rsa.usualKey_isFirst (by decide)
    obtain ⟨signed, made, short⟩ : ∃ signed,
        hostsRequest.toSigned (Key.ofPair (.rsa Rsa.usualKey) []) [caExtension] exampleEnvironment =
            .ok signed exampleEnvironment ∧
          signed.encode.length ≤ Der.maxLength :=
      CertificateRequest.exists_toSigned (fun message => signs message exampleEnvironment)
        (by decide +kernel) (by decide +kernel)
    obtain ⟨certificate, final, issued, _⟩ : ∃ certificate final,
        (exampleIssuer (.rsa Rsa.usualKey)).issue (hostsTemplate (.rsa Rsa.usualKey))
            exampleEnvironment = .ok certificate final ∧
          certificate.encode.length ≤ Der.maxLength :=
      Issuer.exists_issue_of_isFirst Rsa.usualKey_isFirst (by decide) (by decide +kernel)
    rcases build_hostsRequest (.rsa Rsa.usualKey) with ⟨between, built⟩
    rcases CertificateRequest.toSigned_agrees_with_issue hostsRequest
      (Key.ofPair (.rsa Rsa.usualKey) []) [caExtension] with ⟨reads, agrees⟩
    rcases reads _ _ _ made short with ⟨read, asked⟩
    rcases (agrees _ _ _ _ _ _ _ built _).1 _ _ _ _ _ _ made short issued with
      ⟨subject, publicKey, _⟩
    exact ⟨signed, _, certificate, final, made, issued, read, asked.usualExtensions (by decide),
      subject, publicKey⟩
  · rcases build_foreignRequest (.rsa Rsa.usualKey) with ⟨template, between, built, _⟩
    have refused : foreignRequest.toSigned (Key.ofPair (.rsa Rsa.usualKey) []) []
        exampleEnvironment = .error (.notAscii "münchen.example") exampleEnvironment :=
      CertificateRequest.toSigned_eq_notAscii.mpr ⟨firstForeign?_foreignRequest, rfl⟩
    rcases CertificateRequest.toSigned_agrees_with_issue foreignRequest
      (Key.ofPair (.rsa Rsa.usualKey) []) [] with ⟨_, agrees⟩
    rcases agrees _ _ _ _ _ _ _ built (exampleIssuer (.rsa Rsa.usualKey)) with ⟨_, fails⟩
    rcases (fails _ exampleEnvironment _).2 ⟨_, refused⟩ with
      ⟨error, final, failed, rfl | contrary⟩
    · exact ⟨_, template, final, refused, failed⟩
    · cases contrary

end CertAuthority
