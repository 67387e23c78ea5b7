import CertAuthority.Proofs.Issuance.Failures
import CertAuthority.Proofs.Issuance.Issue
import CertAuthority.Proofs.Issuance.Template

/-!
# The first failure of issuing

Four things can keep an issuer from signing a template: the identifier of its
own key cannot be read, a host has a name that cannot be written, the start or
the end of the period cannot be written, or its key does not sign.  They are
met with in this order, and issuing fails for the first of them.

Nothing else in a template matters.  Whatever its serial number, its subject,
its uses, its constraints and its key are, they can be written.
-/

namespace CertAuthority

open X509 (TbsCertificate)

/-- If a step does not pass, then there is one that does not pass after others that all do. -/
theorem exists_first {Step : Type} {earlier : Step → List Step} {Passes : Step → Prop}
    (shorter : ∀ {prior step}, prior ∈ earlier step →
      (earlier prior).length < (earlier step).length) (step : Step) (failed : ¬ Passes step) :
    ∃ first, ¬ Passes first ∧ ∀ prior ∈ earlier first, Passes prior := by
  by_cases passed : ∀ prior ∈ earlier step, Passes prior
  · exact ⟨step, failed, passed⟩
  · obtain ⟨prior, before, failed⟩ : ∃ prior ∈ earlier step, ¬ Passes prior := by
      simpa using passed
    exact exists_first shorter prior failed
termination_by (earlier step).length
decreasing_by exact shorter before

/-- The steps of issuing that can fail, in their order. -/
inductive IssuingStep where
  /-- Reading the identifier of the key of the issuer. -/
  | issuerKeyId
  /-- Writing the names of the hosts. -/
  | hosts
  /-- Writing the start and the end of the period. -/
  | period
  /-- Signing with the key of the issuer. -/
  | signature
deriving DecidableEq

namespace IssuingStep

/-- The steps before a step. -/
def earlier : IssuingStep → List IssuingStep
  | issuerKeyId => []
  | hosts => [issuerKeyId]
  | period => [issuerKeyId, hosts]
  | signature => [issuerKeyId, hosts, period]

theorem length_earlier_lt {prior step : IssuingStep} (before : prior ∈ step.earlier) :
    prior.earlier.length < step.earlier.length := by
  revert before
  cases step <;> cases prior <;> decide

/-- The kind of the errors of a step. -/
def errorKind : IssuingStep → ErrorKind
  | issuerKeyId => .encoding
  | hosts => .validation
  | period => .encoding
  | signature => .crypto

end IssuingStep

/-- How the steps of issuing fail.  Only signing may use up randomness. -/
inductive Issuer.FailsAt (issuer : Issuer) (template : CertificateTemplate)
    (environment : Environment) : IssuingStep → Error → Environment → Prop
  | issuerKeyId {holder : Authority} {extension : X509.Extension}
      (isAuthority : issuer = .authority holder)
      (first : holder.certificate.extension? SubjectKeyIdentifier.oid = some extension)
      (unreadable : SubjectKeyIdentifier.decode? extension.value = none) :
      FailsAt issuer template environment .issuerKeyId .malformedExtension environment
  | hosts {name : String} (first : template.hosts.firstForeign? = some name) :
      FailsAt issuer template environment .hosts (.notAscii name) environment
  | period (unwritable : template.validity.notBefore.toTime? = none ∨
        template.validity.notAfter.toTime? = none) :
      FailsAt issuer template environment .period .unwritableTime environment
  | signature {keyId : Option Octets} {tbs : TbsCertificate} {after : Environment}
      (found : issuer.keyId = .ok keyId)
      (stated : template.toTbs issuer.name issuer.key.signatureAlgorithm keyId = .ok tbs)
      (refused : issuer.key.sign tbs.encode environment = .error .signingFailed after) :
      FailsAt issuer template environment .signature .signingFailed after

theorem Issuer.FailsAt.kind {issuer : Issuer} {template : CertificateTemplate}
    {environment after : Environment} {step : IssuingStep} {error : Error}
    (fails : issuer.FailsAt template environment step error after) :
    error.kind = step.errorKind := by
  cases fails <;> rfl

/-- No failure at a step. -/
def Issuer.Passes (issuer : Issuer) (template : CertificateTemplate) (environment : Environment)
    (step : IssuingStep) : Prop :=
  ∀ error after, ¬ issuer.FailsAt template environment step error after

/-- The failure of the first step that fails. -/
def Issuer.FailsFirst (issuer : Issuer) (template : CertificateTemplate)
    (environment : Environment) (error : Error) (after : Environment) : Prop :=
  ∃ step, issuer.FailsAt template environment step error after ∧
    ∀ prior ∈ step.earlier, issuer.Passes template environment prior

/-! ## The signed part -/

/-- The signed part cannot be written for one of two reasons, of which the names come first. -/
theorem CertificateTemplate.toTbs_eq_error {template : CertificateTemplate} {issuer : X509.Name}
    {algorithm : SignatureAlgorithm} {authorityKeyId : Option Octets} {error : Error} :
    template.toTbs issuer algorithm authorityKeyId = .error error ↔
      (∃ name, template.hosts.firstForeign? = some name ∧ error = .notAscii name) ∨
        template.hosts.firstForeign? = none ∧ template.validity.toPeriod = .error error := by
  rcases template.exists_extensions_eq authorityKeyId with ⟨others, _, extensions⟩
  rw [toTbs, extensions, Hosts.toExtensions_eq]
  cases template.hosts.firstForeign? with
  | some name => simp [Except.map, bind, Except.bind, eq_comm]
  | none =>
      cases template.validity.toPeriod with
      | error found => simp [Except.map, bind, Except.bind]
      | ok period => simp [Except.map, bind, Except.bind, pure, Except.pure]

/-! ## The steps of issuing -/

namespace Issuer

variable {issuer : Issuer} {template other : CertificateTemplate}
  {environment after : Environment} {error : Error}

/-- The identifier of the key of an authority is that of the first extension for it. -/
theorem keyId_authority (holder : Authority) :
    (authority holder).keyId =
      match holder.certificate.extension? SubjectKeyIdentifier.oid with
      | none => .ok none
      | some extension =>
          (orError .malformedExtension (SubjectKeyIdentifier.decode? extension.value)).map
            fun identifier => some identifier.identifier := by
  have lookup : (authority holder).keyId =
      (holder.certificate.extensionValue SubjectKeyIdentifier >>= fun identifier =>
        .ok (identifier.map (·.identifier))) := rfl
  rw [lookup, X509.Certificate.extensionValue]
  cases holder.certificate.extension? SubjectKeyIdentifier.oid with
  | none => rfl
  | some extension =>
      have value : (ExtensionValue.decode extension.value : Except Error SubjectKeyIdentifier) =
          orError .malformedExtension (SubjectKeyIdentifier.decode? extension.value) := rfl
      simp only [value]
      cases SubjectKeyIdentifier.decode? extension.value <;> rfl

theorem failsAt_issuerKeyId :
    issuer.FailsAt template environment .issuerKeyId error after ↔
      issuer.keyId = .error error ∧ environment = after := by
  constructor
  · rintro ⟨rfl, first, unreadable⟩
    refine ⟨?_, rfl⟩
    rw [keyId_authority, first]
    simp only
    rw [unreadable]
    rfl
  · rintro ⟨failed, rfl⟩
    cases issuer with
    | subject name key => cases failed
    | authority holder =>
        rw [keyId_authority] at failed
        split at failed
        · cases failed
        · rename_i extension first
          cases unreadable : SubjectKeyIdentifier.decode? extension.value with
          | some identifier =>
              rw [unreadable] at failed
              cases failed
          | none =>
              rw [unreadable] at failed
              rcases Except.error.inj failed with rfl
              exact .issuerKeyId rfl first unreadable

theorem failsAt_hosts :
    issuer.FailsAt template environment .hosts error after ↔
      (∃ name, template.hosts.firstForeign? = some name ∧ error = .notAscii name) ∧
        environment = after := by
  constructor
  · intro fails
    cases fails with
    | hosts first => exact ⟨⟨_, first, rfl⟩, rfl⟩
  · rintro ⟨⟨name, first, rfl⟩, rfl⟩
    exact .hosts first

theorem failsAt_period :
    issuer.FailsAt template environment .period error after ↔
      template.validity.toPeriod = .error error ∧ environment = after := by
  rw [Validity.toPeriod_eq_error]
  constructor
  · intro fails
    cases fails with
    | period unwritable => exact ⟨⟨rfl, unwritable⟩, rfl⟩
  · rintro ⟨⟨rfl, unwritable⟩, rfl⟩
    exact .period unwritable

/-- Issuing fails for its key identifier, for the signed part, or in signing. -/
theorem issue_eq_error :
    issuer.issue template environment = .error error after ↔
      issuer.keyId = .error error ∧ environment = after ∨
        ∃ keyId, issuer.keyId = .ok keyId ∧
          (template.toTbs issuer.name issuer.key.signatureAlgorithm keyId = .error error ∧
              environment = after ∨
            ∃ tbs, template.toTbs issuer.name issuer.key.signatureAlgorithm keyId = .ok tbs ∧
              issuer.key.sign tbs.encode environment = .error error after) := by
  have reported : ∀ certificate between, ((do
      Operation.report (.issuedCertificate template.serialNumber.toNat
        template.subject.commonName template.isCa)
      return certificate) : Operation X509.Certificate) between ≠ .error error after := by
    intro certificate between failed
    rcases Operation.bind_eq_error.mp failed with failed | ⟨_, _, _, failed⟩
    · exact Operation.report_ne_error failed
    · exact Operation.pure_ne_error failed
  rw [issue_eq, Operation.ofExcept_bind_eq_error]
  refine or_congr_right (exists_congr fun keyId => and_congr_right fun _ => ?_)
  rw [Operation.ofExcept_bind_eq_error]
  refine or_congr_right (exists_congr fun tbs => and_congr_right fun _ => ?_)
  rw [Operation.bind_eq_error]
  refine or_iff_left ?_
  rintro ⟨signature, between, -, failed⟩
  exact reported _ between failed

theorem passes_issuerKeyId :
    issuer.Passes template environment .issuerKeyId ↔ ∃ keyId, issuer.keyId = .ok keyId := by
  unfold Passes
  simp only [failsAt_issuerKeyId]
  cases issuer.keyId with
  | error error => simp
  | ok keyId => simp

theorem passes_hosts :
    issuer.Passes template environment .hosts ↔ template.hosts.firstForeign? = none := by
  unfold Passes
  simp only [failsAt_hosts]
  cases template.hosts.firstForeign? with
  | some name => simp
  | none => simp

theorem passes_period :
    issuer.Passes template environment .period ↔
      ∃ period, template.validity.toPeriod = .ok period := by
  unfold Passes
  simp only [failsAt_period]
  cases template.validity.toPeriod with
  | error error => simp
  | ok period => simp

/-- A template with a signed part passes the steps for its names and its period. -/
theorem passes_of_toTbs {name : X509.Name} {algorithm : SignatureAlgorithm}
    {keyId : Option Octets} {tbs : TbsCertificate}
    (stated : template.toTbs name algorithm keyId = .ok tbs) :
    issuer.Passes template environment .hosts ∧ issuer.Passes template environment .period := by
  rw [passes_hosts, passes_period]
  have unfailing : ∀ error, template.toTbs name algorithm keyId ≠ .error error := by
    rw [stated]
    exact nofun
  have plain : template.hosts.firstForeign? = none := by
    cases foreign : template.hosts.firstForeign? with
    | none => rfl
    | some name =>
        exact absurd (CertificateTemplate.toTbs_eq_error.mpr (.inl ⟨name, foreign, rfl⟩))
          (unfailing (.notAscii name))
  refine ⟨plain, ?_⟩
  cases written : template.validity.toPeriod with
  | ok period => exact ⟨period, rfl⟩
  | error error =>
      exact absurd (CertificateTemplate.toTbs_eq_error.mpr (.inr ⟨plain, written⟩))
        (unfailing error)

/-- Issuing fails as the first step that fails does. -/
theorem issue_eq_error_iff :
    issuer.issue template environment = .error error after ↔
      issuer.FailsFirst template environment error after := by
  rw [issue_eq_error]
  constructor
  · rintro (failed | ⟨keyId, found, failed⟩)
    · exact ⟨.issuerKeyId, failsAt_issuerKeyId.mpr failed, nofun⟩
    have keyIdPasses : issuer.Passes template environment .issuerKeyId :=
      passes_issuerKeyId.mpr ⟨keyId, found⟩
    rcases failed with ⟨failed, rfl⟩ | ⟨tbs, stated, refused⟩
    · rcases CertificateTemplate.toTbs_eq_error.mp failed with foreign | ⟨plain, unwritable⟩
      · refine ⟨.hosts, failsAt_hosts.mpr ⟨foreign, rfl⟩, ?_⟩
        simpa [IssuingStep.earlier] using keyIdPasses
      · refine ⟨.period, failsAt_period.mpr ⟨unwritable, rfl⟩, ?_⟩
        simpa [IssuingStep.earlier] using ⟨keyIdPasses, passes_hosts.mpr plain⟩
    · rcases (issuer.key.sign_failsWithin _ _ _ _ refused).1 with rfl
      refine ⟨.signature, .signature found stated refused, ?_⟩
      simpa [IssuingStep.earlier] using ⟨keyIdPasses, passes_of_toTbs stated⟩
  · rintro ⟨step, fails, passed⟩
    cases step with
    | issuerKeyId => exact .inl (failsAt_issuerKeyId.mp fails)
    | hosts =>
        rcases passes_issuerKeyId.mp (passed .issuerKeyId (by decide)) with ⟨keyId, found⟩
        rcases failsAt_hosts.mp fails with ⟨foreign, same⟩
        exact .inr ⟨keyId, found, .inl
          ⟨CertificateTemplate.toTbs_eq_error.mpr (.inl foreign), same⟩⟩
    | period =>
        rcases passes_issuerKeyId.mp (passed .issuerKeyId (by decide)) with ⟨keyId, found⟩
        have plain := passes_hosts.mp (passed .hosts (by decide))
        rcases failsAt_period.mp fails with ⟨unwritable, same⟩
        exact .inr ⟨keyId, found, .inl
          ⟨CertificateTemplate.toTbs_eq_error.mpr (.inr ⟨plain, unwritable⟩), same⟩⟩
    | signature =>
        cases fails with
        | signature found stated refused => exact .inr ⟨_, found, .inr ⟨_, stated, refused⟩⟩

/-- Issuing fails for a name if it is the first that cannot be written, and the issuer is usable. -/
theorem issue_eq_notAscii {name : String} :
    issuer.issue template environment = .error (.notAscii name) after ↔
      (∃ keyId, issuer.keyId = .ok keyId) ∧ template.hosts.firstForeign? = some name ∧
        environment = after := by
  rw [issue_eq_error_iff]
  constructor
  · rintro ⟨step, fails, passed⟩
    cases fails with
    | hosts first => exact ⟨passes_issuerKeyId.mp (passed .issuerKeyId (by decide)), first, rfl⟩
  · rintro ⟨found, first, rfl⟩
    refine ⟨.hosts, .hosts first, fun prior before => ?_⟩
    rcases List.mem_singleton.mp before with rfl
    exact passes_issuerKeyId.mpr found

/-- Issuing fails for a name that cannot be written, or else before it comes to the names. -/
theorem exists_error_of_foreign {name : String}
    (first : template.hosts.firstForeign? = some name) :
    ∃ error final, issuer.issue template environment = .error error final ∧
      (error = .notAscii name ∨ issuer.keyId = .error error) := by
  cases found : issuer.keyId with
  | ok keyId =>
      exact ⟨_, _, issue_eq_notAscii.mpr ⟨⟨keyId, found⟩, first, rfl⟩, .inl rfl⟩
  | error error => exact ⟨_, _, issue_eq_error.mpr (.inl ⟨found, rfl⟩), .inr rfl⟩

/-- If a step fails, then a step fails first. -/
theorem exists_failsFirst (step : IssuingStep)
    (failed : ¬ issuer.Passes template environment step) :
    ∃ error after, issuer.FailsFirst template environment error after := by
  rcases exists_first IssuingStep.length_earlier_lt step failed with ⟨first, failed, passed⟩
  obtain ⟨error, after, fails⟩ : ∃ error after,
      issuer.FailsAt template environment first error after := by
    simpa [Passes] using failed
  exact ⟨error, after, first, fails, passed⟩

/-- With a key that signs everything, templates with the same names and period fail alike. -/
theorem failsAt_congr {step : IssuingStep} (hosts : other.hosts = template.hosts)
    (validity : other.validity = template.validity) (signs : ¬ issuer.key.pair.Refuses) :
    issuer.FailsAt other environment step error after ↔
      issuer.FailsAt template environment step error after := by
  cases step with
  | issuerKeyId => rw [failsAt_issuerKeyId, failsAt_issuerKeyId]
  | hosts => rw [failsAt_hosts, failsAt_hosts, hosts]
  | period => rw [failsAt_period, failsAt_period, validity]
  | signature =>
      constructor <;> intro fails <;> cases fails with
      | signature found stated refused =>
          exact absurd (issuer.key.sign_failsWithin _ _ _ _ refused).2 signs

/-- Issuing fails exactly if one of its four steps does, with the error of the first of them.
Apart from the octets that the key has to sign, only the hosts and the period of the template
matter. -/
theorem issue_fails_first (issuer : Issuer) (template : CertificateTemplate)
    (environment : Environment) :
    (∀ error after, issuer.issue template environment = .error error after ↔
        issuer.FailsFirst template environment error after) ∧
      ((∃ error after, issuer.issue template environment = .error error after) ↔
        ∃ step error after, issuer.FailsAt template environment step error after) ∧
      (∀ step error after, issuer.FailsAt template environment step error after →
        error.kind = step.errorKind) ∧
      (∀ other : CertificateTemplate, other.hosts = template.hosts →
        other.validity = template.validity → ¬ issuer.key.pair.Refuses →
          ∀ error after, issuer.issue other environment = .error error after ↔
            issuer.issue template environment = .error error after) ∧
      ∀ request key lifetime usages isCa now before between,
        CertificateTemplate.build request key lifetime usages isCa now before =
            .ok template between →
          template.hosts = Hosts.classify request.hosts ∧
            CertificateTemplate.validityFrom now lifetime = .ok template.validity := by
  refine ⟨fun error after => issue_eq_error_iff, ⟨?_, ?_⟩, fun step error after fails => fails.kind,
    ?_, ?_⟩
  · rintro ⟨error, after, failed⟩
    rcases issue_eq_error_iff.mp failed with ⟨step, fails, _⟩
    exact ⟨step, error, after, fails⟩
  · rintro ⟨step, error, after, fails⟩
    rcases exists_failsFirst step (fun passed => passed error after fails) with
      ⟨error, after, failed⟩
    exact ⟨error, after, issue_eq_error_iff.mpr failed⟩
  · intro other hosts validity signs error after
    simp only [issue_eq_error_iff, FailsFirst, Passes, failsAt_congr hosts validity signs]
  · intro request key lifetime usages isCa now before between built
    have fields := CertificateTemplate.build_eq_ok built
    exact ⟨fields.hosts, fields.validity⟩

end Issuer

/-- A request whose first host comes after the second in a certificate; neither can be written. -/
def foreignRequest : CertificateRequest :=
  { keyAlgorithm := .rsa
    keySize := 2048
    commonName := "leaf"
    names := []
    hosts := ["urn:bücher", "münchen.example"]
    serialNumber := "" }

/-- The template of the request, at the start of 1970, begins before what can be written. -/
theorem build_foreignRequest (pair : KeyPair) : ∃ template between,
    CertificateTemplate.build foreignRequest (Key.ofPair pair []) ⟨0⟩ ["server auth"] false
        ⟨0, 0, by decide⟩ exampleEnvironment = .ok template between ∧
      template.hosts = Hosts.classify foreignRequest.hosts ∧
        template.validity.notBefore.toTime? = none := by
  obtain ⟨validity, written, unwritable⟩ : ∃ validity,
      CertificateTemplate.validityFrom ⟨0, 0, by decide⟩ ⟨0⟩ = .ok validity ∧
        validity.notBefore.toTime? = none :=
    ⟨⟨⟨-300000000000, 0, by decide⟩, ⟨315360000000000000, 0, by decide⟩⟩, by decide, by decide⟩
  exact ⟨_, _, Operation.bind_eq_ok.mpr ⟨_, _, Usage.resolve_of_known (by decide) (by decide) _,
    CertificateTemplate.buildWith_of_validityFrom written _ _ _ _ _⟩, rfl, unwritable⟩

theorem firstForeign?_foreignRequest :
    (Hosts.classify foreignRequest.hosts).firstForeign? = some "münchen.example" := by
  decide +kernel

/-- The template of the request cannot be issued for its period either, and fails for a name. -/
theorem foreignRequest_fails_first : ∃ template between,
    CertificateTemplate.build foreignRequest (Key.ofPair (.rsa Rsa.usualKey) []) ⟨0⟩
        ["server auth"] false ⟨0, 0, by decide⟩ exampleEnvironment = .ok template between ∧
      (exampleIssuer (.rsa Rsa.usualKey)).FailsAt template between .period .unwritableTime between ∧
        (exampleIssuer (.rsa Rsa.usualKey)).issue template between =
          .error (.notAscii "münchen.example") between := by
  rcases build_foreignRequest (.rsa Rsa.usualKey) with ⟨template, between, built, hosts, unwritable⟩
  rcases Issuer.issue_fails_first (exampleIssuer (.rsa Rsa.usualKey)) template between with
    ⟨first, _⟩
  refine ⟨template, between, built, .period (.inl unwritable), ?_⟩
  refine (first _ _).mpr ⟨.hosts, .hosts ?_, ?_⟩
  · rw [hosts, firstForeign?_foreignRequest]
  · intro prior before
    rcases List.mem_singleton.mp before with rfl
    exact Issuer.passes_issuerKeyId.mpr ⟨none, rfl⟩

end CertAuthority
