import CertAuthority.Issuance.Template
import CertAuthority.Proofs.Usage

/-!
# Templates that are built

A template that is built for a request and a key takes its subject and its
hosts from the request and its public key from the key.  Its period is the one
that is asked for, and its uses are those that the words stand for.  It is
refused for words that stand for nothing, or for its period.
-/

namespace CertAuthority

namespace CertificateTemplate

/-- A template has the fields that it is built with; only its serial number is drawn. -/
structure IsBuiltFrom (template : CertificateTemplate) (request : CertificateRequest) (key : Key)
    (lifetime : Duration) (usage : Usage) (isCa : Bool) (now : Instant) : Prop where
  subject : template.subject = request.subject
  publicKey : template.publicKey = key.publicKeyInfo
  hosts : template.hosts = Hosts.classify request.hosts
  validity : validityFrom now lifetime = .ok template.validity
  usage : template.usage = usage
  statesConstraints : template.statesConstraints = true
  isCa : template.isCa = isCa

variable {request : CertificateRequest} {key : Key} {lifetime : Duration} {usage : Usage}
  {isCa : Bool} {now : Instant} {environment after : Environment} {template : CertificateTemplate}
  {usages : List String}

theorem buildWith_eq_ok
    (built : buildWith request key lifetime usage isCa now environment = .ok template after) :
    template.IsBuiltFrom request key lifetime usage isCa now := by
  rcases Operation.ofExcept_bind_eq_ok.mp built with ⟨validity, written, built⟩
  rcases Operation.bind_eq_ok.mp built with ⟨octets, _, _, built⟩
  rcases Operation.pure_eq_ok.mp built with ⟨rfl, _⟩
  exact ⟨rfl, rfl, rfl, written, rfl, rfl, rfl⟩

theorem build_eq_ok
    (built : build request key lifetime usages isCa now environment = .ok template after) :
    template.IsBuiltFrom request key lifetime (Usage.ofNames usages) isCa now := by
  rcases Operation.bind_eq_ok.mp built with ⟨usage, _, resolved, built⟩
  rcases Usage.resolve_eq_ok resolved with rfl
  exact buildWith_eq_ok built

theorem build_of_unknown (unknown : (Usage.ofNames usages).isEmpty = true) :
    build request key lifetime usages isCa now environment =
      .error .noUsage (environment.reporting (Usage.unknownEvents usages)) := by
  refine Operation.bind_eq_error.mpr (.inl ?_)
  rw [Usage.resolve_eq, if_pos unknown]

theorem build_of_known (known : ¬ (Usage.ofNames usages).isEmpty = true) :
    build request key lifetime usages isCa now environment =
      buildWith request key lifetime (Usage.ofNames usages) isCa now
        (environment.reporting (Usage.unknownEvents usages)) := by
  refine Operation.bind_of_ok ?_
  rw [Usage.resolve_eq, if_neg known]

theorem buildWith_of_validityFrom {validity : Validity}
    (written : validityFrom now lifetime = .ok validity) (request : CertificateRequest) (key : Key)
    (usage : Usage) (isCa : Bool) (environment : Environment) :
    buildWith request key lifetime usage isCa now environment = .ok
      { serialNumber := serialOfEntropy (environment.entropy.take 8).1
        subject := request.subject
        publicKey := key.publicKeyInfo
        hosts := Hosts.classify request.hosts
        validity
        usage
        statesConstraints := true
        isCa } { environment with entropy := (environment.entropy.take 8).2 } :=
  Operation.ofExcept_bind_eq_ok.mpr
    ⟨validity, written, Operation.bind_eq_ok.mpr ⟨_, _, rfl, rfl⟩⟩

/-- Only the period can keep a template from being built. -/
theorem buildWith_eq_error {error : Error} :
    buildWith request key lifetime usage isCa now environment = .error error after ↔
      validityFrom now lifetime = .error error ∧ environment = after := by
  rw [buildWith, Operation.ofExcept_bind_eq_error]
  refine or_iff_left ?_
  rintro ⟨_, _, failed⟩
  cases failed

end CertificateTemplate

end CertAuthority
