import CertAuthority.Proofs.Issuance.Run

/-!
# Who signs

Making a certificate takes the files of a certificate and of the key that it
certifies.  What the certificate says about its holder is not looked at: any two
certificates with the same name, key and key identifier do the same
(`LeafInput.generate_eq_of_signsAs`).  So the holder of every certificate that a
run returns may sign further ones, not only the authorities among them.

What a run returns does say who is an authority: the certificates of
`generateCa` are those of authorities, the certificates of `generate` are not.
-/

namespace CertAuthority

open X509 (Certificate)

/-! ## What matters of the certificate of a signer -/

/-- Two certificates have the same name, key and key identifier of their holder. -/
structure X509.Certificate.SignsAs (one other : Certificate) : Prop where
  subject : one.tbs.subject = other.tbs.subject
  publicKey : one.tbs.publicKey = other.tbs.publicKey
  keyId : one.extensionValue SubjectKeyIdentifier = other.extensionValue SubjectKeyIdentifier

/-- Issuers with the same name, key and key identifier issue the same certificates. -/
theorem Issuer.issue_congr {one other : Issuer} (name : one.name = other.name)
    (key : one.key = other.key) (keyId : one.keyId = other.keyId) : one.issue = other.issue := by
  funext template
  rw [issue, issue, name, key, keyId]

/-- The files of an input are a certificate and the key that it certifies. -/
structure LeafInput.IsOf (input : LeafInput) (signer : Authority) : Prop where
  certificate : Certificate.ofFile input.certificateFile = .ok signer.certificate
  key : ∃ container, Key.read input.keyFile = .ok (container, signer.key)
  certified : signer.IsCertified

namespace LeafInput

variable {input : LeafInput} {signer : Authority}

theorem isOf_of_load {before between : Environment}
    (loaded : Authority.load input.certificateFile input.keyFile before = .ok signer between) :
    input.IsOf signer := by
  rcases Authority.load_eq_ok.mp loaded with ⟨read, certified, container, keyRead, _⟩
  exact ⟨orError_eq_ok.mpr read, ⟨container, keyRead⟩, certified⟩

/-- Nothing else of the certificate of the signer makes a difference. -/
theorem generate_eq_of_signsAs (isOf : input.IsOf signer) {file : Octets}
    {certificate : Certificate} (read : Certificate.ofFile file = .ok certificate)
    (same : certificate.SignsAs signer.certificate) :
    { input with certificateFile := file }.generate = input.generate := by
  rcases isOf with ⟨signerRead, ⟨container, keyRead⟩, certified⟩
  let other : Authority := ⟨certificate, signer.key⟩
  have otherCertified : other.IsCertified := certified.trans same.publicKey.symm
  have issues : (Issuer.authority other).issue = (Issuer.authority signer).issue := by
    refine Issuer.issue_congr same.subject rfl ?_
    rw [Issuer.keyId, Issuer.keyId, same.keyId]
  refine congrArg (Operation.ofExcept (CertificateRequest.parse input.document) >>= ·) ?_
  funext request environment
  have loaded : Authority.load input.certificateFile input.keyFile environment =
      .ok signer (environment.reporting [.loadedKey container]) :=
    Authority.load_eq_ok.mpr ⟨orError_eq_ok.mp signerRead, certified, container, keyRead, rfl⟩
  have otherLoaded : Authority.load file input.keyFile environment =
      .ok other (environment.reporting [.loadedKey container]) :=
    Authority.load_eq_ok.mpr ⟨orError_eq_ok.mp read, otherCertified, container, keyRead, rfl⟩
  refine (Operation.bind_of_ok otherLoaded).trans
    (Eq.trans ?_ (Operation.bind_of_ok loaded).symm)
  rw [issues]

end LeafInput

/-! ## What is returned -/

/-- Files are a certificate and its key, which says whether its holder is an authority.  They are
accepted as those of an authority in all surroundings, and making certificates with them fails for
other reasons only. -/
structure IssuedMaterial.IsOf (material : IssuedMaterial) (holder : Authority) (isCa : Bool) :
    Prop where
  certificate : Certificate.ofFile material.certificate = .ok holder.certificate
  certified : holder.IsCertified
  constraints : holder.certificate.extensionValue BasicConstraints = .ok (some ⟨isCa, none⟩)
  loads : ∀ surroundings, ∃ result,
    Authority.load material.certificate material.privateKey surroundings = .ok holder result
  signs : ∀ document lifetime usages now,
    Operation.FailsWithin (IsOfRequestOrKey holder.key.pair)
      (generate document material.certificate material.privateKey lifetime usages now)

theorem IssuedMaterial.Making.isOf {material : IssuedMaterial} (making : Making material) :
    material.IsOf making.holder making.template.isCa where
  certificate := making.ofFile_certificate
  certified := making.certified
  constraints := making.constraints_holder
  loads surroundings := ⟨_, making.load_holder surroundings⟩
  signs := making.generate_failsWithin

/-- A certificate names a signer, and is checked with its key. -/
structure Authority.Signs (signer : Authority) (certificate : Certificate) : Prop where
  name : certificate.tbs.issuer = signer.certificate.tbs.subject
  verdict : certificate.verifyIssuedBy signer.certificate = (Issuer.authority signer).verdict

namespace Call

variable {before after : Environment} {product : Product}

theorem exists_of_generateCa {document : Octets} {lifetime : Duration} {now : Instant}
    (performed : (generateCa document lifetime now).perform before = .ok product after) :
    ∃ material holder, product = .material material ∧ material.IsOf holder true := by
  rcases Operation.bind_eq_ok.mp performed with ⟨material, _, made, returned⟩
  rcases Operation.pure_eq_ok.mp returned with ⟨rfl, _⟩
  rcases IssuedMaterial.generateCa_eq_ok made with ⟨making, _, isCa, _⟩
  rw [← isCa]
  exact ⟨material, making.holder, rfl, making.isOf⟩

theorem exists_of_generate {input : LeafInput}
    (performed : (generate input).perform before = .ok product after) :
    ∃ material signer holder, product = .material material ∧ input.IsOf signer ∧
      signer.Signs holder.certificate ∧ material.IsOf holder false := by
  rcases Operation.bind_eq_ok.mp performed with ⟨material, _, made, returned⟩
  rcases Operation.pure_eq_ok.mp returned with ⟨rfl, _⟩
  rcases IssuedMaterial.generate_eq_ok made with ⟨making, signer, _, _, loaded, issuer, isCa⟩
  have isOf := LeafInput.isOf_of_load loaded
  rcases IssuedMaterial.Making.verifyIssuedBy_holder issuer isOf.certified with ⟨name, verdict⟩
  rw [← isCa]
  exact ⟨material, signer, making.holder, rfl, isOf, ⟨name, verdict⟩, making.isOf⟩

end Call

/-! ## Whole runs -/

/-- What is returned in a run is what the call does in some surroundings. -/
theorem Run.exists_performed {before after : Environment} {steps : List Step}
    (run : Run before steps after) {call : Call} {product : Product}
    (member : ⟨call, .ok product⟩ ∈ steps) :
    ∃ start last, call.perform start = .ok product last := by
  induction run with
  | nil => cases member
  | ok performed _ ih =>
      cases member with
      | head => exact ⟨_, _, performed⟩
      | tail _ member => exact ih member
  | error _ _ ih =>
      cases member with
      | tail _ member => exact ih member

/-- In a run of calls, every certificate that is made with the files of another one is signed with
the key which that one certifies; what that certificate says besides the name and the identifiers
of its key makes no difference.  All returned files are accepted as those of a signer, whether the
returned certificate is said to be that of an authority, as by `generateCa`, or not, as by
`generate`. -/
theorem Run.signs_with_certified_key {before after : Environment} {steps : List Step}
    (run : Run before steps after) :
    (∀ document lifetime now product, ⟨.generateCa document lifetime now, .ok product⟩ ∈ steps →
        ∃ material holder, product = .material material ∧ material.IsOf holder true) ∧
      ∀ input product, ⟨.generate input, .ok product⟩ ∈ steps →
        ∃ material signer holder, product = .material material ∧ input.IsOf signer ∧
          signer.Signs holder.certificate ∧ material.IsOf holder false ∧
            ∀ file certificate, Certificate.ofFile file = .ok certificate →
              certificate.SignsAs signer.certificate →
                { input with certificateFile := file }.generate = input.generate := by
  constructor
  · intro document lifetime now product member
    rcases run.exists_performed member with ⟨start, last, performed⟩
    exact Call.exists_of_generateCa performed
  · intro input product member
    rcases run.exists_performed member with ⟨start, last, performed⟩
    rcases Call.exists_of_generate performed with
      ⟨material, signer, holder, returned, isOf, signs, made⟩
    exact ⟨material, signer, holder, returned, isOf, signs, made,
      fun file certificate read same => LeafInput.generate_eq_of_signsAs isOf read same⟩

/-- The last of the three certificates is signed by the holder of the second, which does not say
that its holder is an authority. -/
theorem sampleRun_signs_with_certified_key : ∃ ca leaf lower after signer holder,
    Run ⟨sampleRound 0, []⟩ (sampleSteps ca leaf lower) after ∧ (sampleInput leaf).IsOf signer ∧
      signer.certificate.extensionValue BasicConstraints = .ok (some ⟨false, none⟩) ∧
        signer.Signs holder.certificate ∧ lower.IsOf holder false := by
  rcases exists_sampleRun with ⟨ca, leaf, lower, after, run⟩
  rcases Run.signs_with_certified_key run with ⟨_, generated⟩
  rcases generated (sampleInput ca) (.material leaf) (.tail _ (.head _)) with
    ⟨_, _, middle, returned, _, _, leafIsOf, _⟩
  rcases Product.material.inj returned with rfl
  rcases generated (sampleInput leaf) (.material lower) (.tail _ (.tail _ (.head _))) with
    ⟨_, signer, holder, returned, isOf, signs, lowerIsOf, _⟩
  rcases Product.material.inj returned with rfl
  have same := Except.ok.inj (leafIsOf.certificate.symm.trans isOf.certificate)
  have constraints := leafIsOf.constraints
  rw [same] at constraints
  exact ⟨ca, leaf, lower, after, signer, holder, run, isOf, constraints, signs, lowerIsOf⟩

/-- The certificate in the files of a signer says that its holder is an authority. -/
def LeafInput.IsOfAuthority (input : LeafInput) : Prop :=
  ∃ certificate constraints, Certificate.ofFile input.certificateFile = .ok certificate ∧
    certificate.extensionValue BasicConstraints = .ok (some constraints) ∧
      constraints.isCa = true

/-- The second of the three certificates was made by `generate`, and its files are accepted as those
of the signer of the third although it does not say that its holder is an authority. -/
theorem leaf_signs : ∃ ca leaf lower after,
    Run ⟨sampleRound 0, []⟩ (sampleSteps ca leaf lower) after ∧
      ¬ (sampleInput leaf).IsOfAuthority := by
  rcases exists_sampleRun with ⟨ca, leaf, lower, after, run⟩
  rcases run.exists_performed (.tail _ (.head _)) with ⟨_, _, performed⟩
  rcases Call.exists_of_generate performed with ⟨_, _, holder, returned, _, _, isOf⟩
  rcases Product.material.inj returned with rfl
  refine ⟨ca, leaf, lower, after, run, ?_⟩
  rintro ⟨certificate, constraints, read, said, isCa⟩
  rcases Except.ok.inj (isOf.certificate.symm.trans read) with rfl
  have same := Except.ok.inj (isOf.constraints.symm.trans said)
  rw [← Option.some.inj same] at isCa
  cases isCa

end CertAuthority
