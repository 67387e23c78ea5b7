import CertAuthority.Proofs.Issuance.FirstFailure
import CertAuthority.Proofs.Key.Generate

/-!
# The first failure of making a certificate

Making a certificate for a request goes through eight stages, and fails for the
first of them that fails (`LeafInput.FailsFirst`).  Each stage looks at its own
part of the input, so the error does not change with what the later stages look
at.

Up to the look at the uses nothing is made.  A failure there leaves the supply
of randomness as it was, and only tells of a key that was loaded and of words
that stand for nothing.
-/

namespace CertAuthority

open X509 (Certificate)

/-! ## Loading an authority -/

namespace Authority

variable {certificateFile keyFile : Octets} {environment after : Environment} {error : Error}
  {holder : Authority}

/-- Pairing changes nothing about the certificate and the key, and accepts what is certified. -/
theorem pair_eq_ok {certificate : Certificate} {key : Key} :
    pair certificate key = .ok holder ↔
      holder.certificate = certificate ∧ holder.key = key ∧ holder.IsCertified := by
  constructor
  · intro paired
    unfold pair at paired
    split at paired
    · rename_i certified
      cases paired
      exact ⟨rfl, rfl, certified⟩
    · cases paired
  · rintro ⟨rfl, rfl, certified⟩
    exact if_pos certified

theorem pair_eq_error {certificate : Certificate} {key : Key} :
    pair certificate key = .error error ↔
      key.publicKeyInfo ≠ certificate.tbs.publicKey ∧ error = .keyMismatch := by
  rw [pair]
  split
  · rename_i same
    exact iff_of_false nofun fun refused => refused.1 same
  · rename_i different
    rw [Except.error.injEq, and_iff_right different]
    exact eq_comm

theorem load_eq_ok :
    load certificateFile keyFile environment = .ok holder after ↔
      Certificate.ofFile? certificateFile = some holder.certificate ∧ holder.IsCertified ∧
        ∃ container, Key.read keyFile = .ok (container, holder.key) ∧
          environment.reporting [.loadedKey container] = after := by
  constructor
  · intro loaded
    rcases Operation.bind_eq_ok.mp loaded with ⟨certificate, _, reading, loaded⟩
    rcases Operation.ofOption_eq_ok.mp reading with ⟨read, rfl⟩
    rcases Operation.bind_eq_ok.mp loaded with ⟨key, _, keyLoaded, pairing⟩
    rcases Key.load_eq_ok.mp keyLoaded with ⟨container, keyRead, rfl⟩
    rcases Operation.ofExcept_eq_ok.mp pairing with ⟨paired, rfl⟩
    rcases pair_eq_ok.mp paired with ⟨rfl, rfl, certified⟩
    exact ⟨read, certified, container, keyRead, rfl⟩
  · rintro ⟨read, certified, container, keyRead, rfl⟩
    refine Operation.bind_eq_ok.mpr ⟨_, _, Operation.ofOption_eq_ok.mpr ⟨read, rfl⟩, ?_⟩
    refine Operation.bind_eq_ok.mpr ⟨_, _, Key.load_eq_ok.mpr ⟨container, keyRead, rfl⟩, ?_⟩
    exact Operation.ofExcept_eq_ok.mpr ⟨pair_eq_ok.mpr ⟨rfl, rfl, certified⟩, rfl⟩

/-- The files of an authority are refused for the certificate, for the key, or because the key is
not the certified one. -/
theorem load_eq_error :
    load certificateFile keyFile environment = .error error after ↔
      Certificate.ofFile? certificateFile = none ∧ error = .malformedAuthority ∧
          environment = after ∨
        ∃ certificate, Certificate.ofFile? certificateFile = some certificate ∧
          (Key.read keyFile = .error error ∧ environment = after ∨
            ∃ container key, Key.read keyFile = .ok (container, key) ∧
              key.publicKeyInfo ≠ certificate.tbs.publicKey ∧ error = .keyMismatch ∧
                environment.reporting [.loadedKey container] = after) := by
  rw [load, Operation.bind_eq_error]
  cases read : Certificate.ofFile? certificateFile with
  | none =>
      constructor
      · rintro (failed | ⟨_, _, contrary, _⟩)
        · cases failed
          exact .inl ⟨rfl, rfl, rfl⟩
        · cases contrary
      · rintro (⟨_, rfl, rfl⟩ | ⟨_, contrary, _⟩)
        · exact .inl rfl
        · cases contrary
  | some certificate =>
      have refused : ∀ key between, Operation.ofExcept (pair certificate key) between =
          .error error after ↔ key.publicKeyInfo ≠ certificate.tbs.publicKey ∧
            error = .keyMismatch ∧ between = after := by
        intro key between
        rw [Operation.ofExcept_eq_error, pair_eq_error, and_assoc]
      constructor
      · rintro (contrary | ⟨_, _, found, failed⟩)
        · cases contrary
        · cases found
          refine .inr ⟨certificate, rfl, ?_⟩
          rcases Operation.bind_eq_error.mp failed with failed | ⟨key, _, keyLoaded, failed⟩
          · exact .inl (Key.load_eq_error.mp failed)
          · rcases Key.load_eq_ok.mp keyLoaded with ⟨container, keyRead, rfl⟩
            exact .inr ⟨container, key, keyRead, (refused _ _).mp failed⟩
      · rintro (⟨contrary, _⟩ | ⟨_, found, failed⟩)
        · cases contrary
        · cases found
          refine .inr ⟨certificate, environment, rfl, Operation.bind_eq_error.mpr ?_⟩
          rcases failed with failed | ⟨container, key, keyRead, failed⟩
          · exact .inl (Key.load_eq_error.mpr failed)
          · exact .inr ⟨key, _, Key.load_eq_ok.mpr ⟨container, keyRead, rfl⟩,
              (refused _ _).mpr failed⟩

end Authority

theorem IssuedMaterial.ofParts_eq_error {certificate : Certificate} {key : Key} {error : Error} :
    ofParts certificate key = .error error ↔
      Der.maxLength < certificate.encode.length ∧ error = .overlong := by
  unfold ofParts
  split
  · rename_i short
    simp [short]
  · rename_i long
    simp [Nat.not_le.mp long, eq_comm]

/-! ## Stages and their failures -/

/-- Whether an event is reported before anything is made: a key was loaded, or a word stands for
nothing. -/
def Event.isPreparatory : Event → Bool
  | loadedKey _ | unknownUsage _ => true
  | generatingKey _ _ | issuedCertificate _ _ _ => false

/-- What a certificate is made from. -/
structure LeafInput where
  document : Octets
  certificateFile : Octets
  keyFile : Octets
  usages : List String
  lifetime : Duration
  now : Instant

/-- Makes the certificate. -/
def LeafInput.generate (input : LeafInput) : Operation IssuedMaterial :=
  IssuedMaterial.generate input.document input.certificateFile input.keyFile input.lifetime
    input.usages input.now

/-- The stages of making a certificate, in their order. -/
inductive LeafStage where
  /-- Reading and checking the request. -/
  | request
  /-- Reading the certificate of the authority. -/
  | certificateFile
  /-- Reading the key of the authority. -/
  | keyFile
  /-- Comparing this key with the certified one. -/
  | pairing
  /-- Looking up the uses. -/
  | usages
  /-- Making the key of the subject. -/
  | subjectKey
  /-- Finding the period. -/
  | period
  /-- Issuing and writing the certificate. -/
  | issuing
deriving DecidableEq

namespace LeafStage

/-- The stages before a stage. -/
def earlier : LeafStage → List LeafStage
  | request => []
  | certificateFile => [request]
  | keyFile => [request, certificateFile]
  | pairing => [request, certificateFile, keyFile]
  | usages => [request, certificateFile, keyFile, pairing]
  | subjectKey => [request, certificateFile, keyFile, pairing, usages]
  | period => [request, certificateFile, keyFile, pairing, usages, subjectKey]
  | issuing => [request, certificateFile, keyFile, pairing, usages, subjectKey, period]

theorem length_earlier_lt {prior stage : LeafStage} (before : prior ∈ stage.earlier) :
    prior.earlier.length < stage.earlier.length := by
  revert before
  cases stage <;> cases prior <;> decide

/-- The stages up to a stage. -/
def upTo (stage : LeafStage) : List LeafStage :=
  stage.earlier ++ [stage]

theorem upTo_subset {prior stage : LeafStage} (before : prior ∈ stage.earlier) :
    prior.upTo ⊆ stage.upTo := by
  revert before
  cases stage <;> cases prior <;> decide

theorem earlier_subset {prior stage : LeafStage} (before : prior ∈ stage.earlier) :
    prior.earlier ⊆ stage.earlier := by
  revert before
  cases stage <;> cases prior <;> decide

theorem mem_earlier_period {prior : LeafStage} :
    prior ∈ period.earlier ↔ prior ∈ subjectKey.earlier ∨ prior = subjectKey := by
  cases prior <;> decide

theorem mem_earlier_issuing {prior : LeafStage} :
    prior ∈ issuing.earlier ↔ prior ∈ period.earlier ∨ prior = period := by
  cases prior <;> decide

/-- A stage that is not before the key is made comes after all that are. -/
theorem mem_earlier_of_not_mem {stage prior : LeafStage} (late : stage ∉ subjectKey.earlier)
    (early : prior ∈ subjectKey.earlier) : prior ∈ stage.earlier := by
  revert late early
  cases stage <;> cases prior <;> decide

end LeafStage

namespace LeafInput

/-- What is at hand when the stages that make nothing are passed. -/
structure Prepared (input : LeafInput) where
  request : CertificateRequest
  holder : Authority
  container : KeyContainer
  parsed : CertificateRequest.parse input.document = .ok request
  certificateRead : Certificate.ofFile? input.certificateFile = some holder.certificate
  keyRead : Key.read input.keyFile = .ok (container, holder.key)
  certified : holder.IsCertified
  wanted : (Usage.ofNames input.usages).isEmpty = false

/-- The reports of the encoding of a key and of the words that stand for nothing. -/
def preparations (input : LeafInput) (container : KeyContainer) : List Event :=
  .loadedKey container :: Usage.unknownEvents input.usages

/-- The surroundings when the stages that make nothing are passed. -/
def Prepared.surroundings {input : LeafInput} (prepared : input.Prepared)
    (environment : Environment) : Environment :=
  environment.reporting (input.preparations prepared.container)

/-- How the stages fail, and what they leave.  Only making the key and what comes after it may use
up randomness. -/
inductive FailsAt (input : LeafInput) (environment : Environment) :
    LeafStage → Error → Environment → Prop
  | request {error : Error} (failed : CertificateRequest.parse input.document = .error error) :
      FailsAt input environment .request error environment
  | certificateFile (unreadable : Certificate.ofFile? input.certificateFile = none) :
      FailsAt input environment .certificateFile .malformedAuthority environment
  | keyFile {error : Error} (unreadable : Key.read input.keyFile = .error error) :
      FailsAt input environment .keyFile error environment
  | pairing {certificate : Certificate} {container : KeyContainer} {key : Key}
      (certificateRead : Certificate.ofFile? input.certificateFile = some certificate)
      (keyRead : Key.read input.keyFile = .ok (container, key))
      (different : key.publicKeyInfo ≠ certificate.tbs.publicKey) :
      FailsAt input environment .pairing .keyMismatch
        (environment.reporting [.loadedKey container])
  | usages {container : KeyContainer} {key : Key}
      (keyRead : Key.read input.keyFile = .ok (container, key))
      (nothing : (Usage.ofNames input.usages).isEmpty = true) :
      FailsAt input environment .usages .noUsage
        (environment.reporting (input.preparations container))
  | subjectKey {error : Error} {after : Environment} (prepared : input.Prepared)
      (failed : Key.generate prepared.request.keyAlgorithm prepared.request.keySize
        (prepared.surroundings environment) = .error error after) :
      FailsAt input environment .subjectKey error after
  | period {error : Error} {key : Key} {between : Environment} (prepared : input.Prepared)
      (keyMade : Key.generate prepared.request.keyAlgorithm prepared.request.keySize
        (prepared.surroundings environment) = .ok key between)
      (failed : CertificateTemplate.validityFrom input.now input.lifetime = .error error) :
      FailsAt input environment .period error between
  | issuing {error : Error} {key : Key} {template : CertificateTemplate}
      {between last after : Environment} (prepared : input.Prepared)
      (keyMade : Key.generate prepared.request.keyAlgorithm prepared.request.keySize
        (prepared.surroundings environment) = .ok key between)
      (built : CertificateTemplate.buildWith prepared.request key input.lifetime
        (Usage.ofNames input.usages) false input.now between = .ok template last)
      (failed : (Issuer.authority prepared.holder).FailsFirst template last error after) :
      FailsAt input environment .issuing error after
  | overlong {key : Key} {template : CertificateTemplate} {certificate : Certificate}
      {between last after : Environment} (prepared : input.Prepared)
      (keyMade : Key.generate prepared.request.keyAlgorithm prepared.request.keySize
        (prepared.surroundings environment) = .ok key between)
      (built : CertificateTemplate.buildWith prepared.request key input.lifetime
        (Usage.ofNames input.usages) false input.now between = .ok template last)
      (issued : (Issuer.authority prepared.holder).issue template last = .ok certificate after)
      (long : Der.maxLength < certificate.encode.length) :
      FailsAt input environment .issuing .overlong after

/-- No failure at a stage. -/
def Passes (input : LeafInput) (environment : Environment) (stage : LeafStage) : Prop :=
  ∀ error after, ¬ input.FailsAt environment stage error after

/-- The failure of the first stage that fails. -/
def FailsFirst (input : LeafInput) (environment : Environment) (error : Error)
    (after : Environment) : Prop :=
  ∃ stage, input.FailsAt environment stage error after ∧
    ∀ prior ∈ stage.earlier, input.Passes environment prior

variable {input other : LeafInput} {environment after : Environment} {stage : LeafStage}
  {error : Error}

/-! ### When a stage is passed -/

theorem passes_request (environment : Environment) :
    input.Passes environment .request ↔
      ∃ request, CertificateRequest.parse input.document = .ok request := by
  constructor
  · intro passed
    cases parsed : CertificateRequest.parse input.document with
    | ok request => exact ⟨request, rfl⟩
    | error error => exact absurd (.request parsed) (passed error environment)
  · rintro ⟨request, parsed⟩ error after fails
    cases fails with
    | request failed =>
        rw [parsed] at failed
        cases failed

theorem passes_certificateFile (environment : Environment) :
    input.Passes environment .certificateFile ↔
      ∃ certificate, Certificate.ofFile? input.certificateFile = some certificate := by
  constructor
  · intro passed
    cases read : Certificate.ofFile? input.certificateFile with
    | some certificate => exact ⟨certificate, rfl⟩
    | none => exact absurd (.certificateFile read) (passed _ environment)
  · rintro ⟨certificate, read⟩ error after fails
    cases fails with
    | certificateFile unreadable =>
        rw [read] at unreadable
        cases unreadable

theorem passes_keyFile (environment : Environment) :
    input.Passes environment .keyFile ↔
      ∃ container key, Key.read input.keyFile = .ok (container, key) := by
  constructor
  · intro passed
    cases read : Key.read input.keyFile with
    | ok found => exact ⟨found.1, found.2, rfl⟩
    | error error => exact absurd (.keyFile read) (passed error environment)
  · rintro ⟨container, key, read⟩ error after fails
    cases fails with
    | keyFile unreadable =>
        rw [read] at unreadable
        cases unreadable

theorem passes_pairing (environment : Environment) {certificate : Certificate}
    {container : KeyContainer} {key : Key}
    (certificateRead : Certificate.ofFile? input.certificateFile = some certificate)
    (keyRead : Key.read input.keyFile = .ok (container, key)) :
    input.Passes environment .pairing ↔ key.publicKeyInfo = certificate.tbs.publicKey := by
  constructor
  · intro passed
    by_contra different
    exact passed _ _ (.pairing certificateRead keyRead different)
  · intro same error after fails
    cases fails with
    | pairing otherRead otherKeyRead different =>
        rw [certificateRead] at otherRead
        rw [keyRead] at otherKeyRead
        cases otherRead
        cases otherKeyRead
        exact different same

theorem passes_usages (environment : Environment) {container : KeyContainer} {key : Key}
    (keyRead : Key.read input.keyFile = .ok (container, key)) :
    input.Passes environment .usages ↔ (Usage.ofNames input.usages).isEmpty = false := by
  constructor
  · intro passed
    by_contra nothing
    exact passed _ _ (.usages keyRead (Bool.not_eq_false _ ▸ nothing))
  · intro wanted error after fails
    cases fails with
    | usages _ nothing =>
        rw [wanted] at nothing
        cases nothing

/-- The stages that make nothing are passed exactly if everything is at hand after them. -/
theorem passes_earlier_subjectKey (environment : Environment) :
    (∀ prior ∈ LeafStage.subjectKey.earlier, input.Passes environment prior) ↔
      Nonempty input.Prepared := by
  constructor
  · intro passed
    rcases (passes_request environment).mp (passed .request (by decide)) with ⟨request, parsed⟩
    rcases (passes_certificateFile environment).mp (passed .certificateFile (by decide)) with
      ⟨certificate, certificateRead⟩
    rcases (passes_keyFile environment).mp (passed .keyFile (by decide)) with
      ⟨container, key, keyRead⟩
    have certified := (passes_pairing environment certificateRead keyRead).mp
      (passed .pairing (by decide))
    have wanted := (passes_usages environment keyRead).mp (passed .usages (by decide))
    exact ⟨⟨request, ⟨certificate, key⟩, container, parsed, certificateRead, keyRead, certified,
      wanted⟩⟩
  · rintro ⟨prepared⟩ prior before
    simp only [LeafStage.earlier, List.mem_cons, List.not_mem_nil, or_false] at before
    rcases before with rfl | rfl | rfl | rfl | rfl
    · exact (passes_request environment).mpr ⟨_, prepared.parsed⟩
    · exact (passes_certificateFile environment).mpr ⟨_, prepared.certificateRead⟩
    · exact (passes_keyFile environment).mpr ⟨_, _, prepared.keyRead⟩
    · exact (passes_pairing environment prepared.certificateRead prepared.keyRead).mpr
        prepared.certified
    · exact (passes_usages environment prepared.keyRead).mpr prepared.wanted

theorem Prepared.eq (prepared others : input.Prepared) : others = prepared := by
  rcases prepared with ⟨request, ⟨certificate, key⟩, container, parsed, read, keyRead, _, _⟩
  rcases others with ⟨request', ⟨certificate', key'⟩, container', parsed', read', keyRead', _, _⟩
  obtain rfl : request' = request := Except.ok.inj (parsed'.symm.trans parsed)
  obtain rfl : certificate' = certificate := Option.some.inj (read'.symm.trans read)
  cases Except.ok.inj (keyRead'.symm.trans keyRead)
  rfl

/-! ### What is made when they are passed -/

namespace Prepared

variable (prepared : input.Prepared)

/-- The stages that make something. -/
def finish : Operation IssuedMaterial := do
  let key ← Key.generate prepared.request.keyAlgorithm prepared.request.keySize
  let template ← CertificateTemplate.buildWith prepared.request key input.lifetime
    (Usage.ofNames input.usages) false input.now
  let certificate ← (Issuer.authority prepared.holder).issue template
  Operation.ofExcept (IssuedMaterial.ofParts certificate key)

theorem load_eq (environment : Environment) :
    Authority.load input.certificateFile input.keyFile environment =
      .ok prepared.holder (environment.reporting [.loadedKey prepared.container]) :=
  Authority.load_eq_ok.mpr ⟨prepared.certificateRead, prepared.certified, prepared.container,
    prepared.keyRead, rfl⟩

theorem generate_eq (environment : Environment) :
    input.generate environment = prepared.finish (prepared.surroundings environment) := by
  have parsed : Operation.ofExcept (CertificateRequest.parse input.document) environment =
      .ok prepared.request environment := Operation.ofExcept_eq_ok.mpr ⟨prepared.parsed, rfl⟩
  have resolved := Usage.resolve_eq input.usages
    (environment.reporting [.loadedKey prepared.container])
  rw [prepared.wanted, Environment.reporting_reporting] at resolved
  rw [generate, IssuedMaterial.generate, Operation.bind_of_ok parsed,
    Operation.bind_of_ok (prepared.load_eq environment), Operation.bind_of_ok resolved]
  rfl

theorem passes_subjectKey (environment : Environment) :
    input.Passes environment .subjectKey ↔
      ∃ key between, Key.generate prepared.request.keyAlgorithm prepared.request.keySize
        (prepared.surroundings environment) = .ok key between := by
  constructor
  · intro passed
    cases made : Key.generate prepared.request.keyAlgorithm prepared.request.keySize
        (prepared.surroundings environment) with
    | ok key between => exact ⟨key, between, rfl⟩
    | error error after => exact absurd (.subjectKey prepared made) (passed error after)
  · rintro ⟨key, between, made⟩ error after fails
    cases fails with
    | subjectKey others failed =>
        obtain rfl := prepared.eq others
        rw [made] at failed
        cases failed

theorem passes_period {key : Key} {between : Environment}
    (keyMade : Key.generate prepared.request.keyAlgorithm prepared.request.keySize
      (prepared.surroundings environment) = .ok key between) :
    input.Passes environment .period ↔
      ∃ validity, CertificateTemplate.validityFrom input.now input.lifetime = .ok validity := by
  constructor
  · intro passed
    cases found : CertificateTemplate.validityFrom input.now input.lifetime with
    | ok validity => exact ⟨validity, rfl⟩
    | error error => exact absurd (.period prepared keyMade found) (passed error between)
  · rintro ⟨validity, found⟩ error after fails
    cases fails with
    | period _ _ failed =>
        rw [found] at failed
        cases failed

theorem passes_earlier_period {key : Key} {between : Environment}
    (keyMade : Key.generate prepared.request.keyAlgorithm prepared.request.keySize
      (prepared.surroundings environment) = .ok key between) :
    ∀ prior ∈ LeafStage.period.earlier, input.Passes environment prior := by
  intro prior before
  rcases LeafStage.mem_earlier_period.mp before with before | rfl
  · exact (passes_earlier_subjectKey environment).mpr ⟨prepared⟩ prior before
  · exact (prepared.passes_subjectKey environment).mpr ⟨key, between, keyMade⟩

theorem passes_earlier_issuing {key : Key} {template : CertificateTemplate}
    {between last : Environment}
    (keyMade : Key.generate prepared.request.keyAlgorithm prepared.request.keySize
      (prepared.surroundings environment) = .ok key between)
    (built : CertificateTemplate.buildWith prepared.request key input.lifetime
      (Usage.ofNames input.usages) false input.now between = .ok template last) :
    ∀ prior ∈ LeafStage.issuing.earlier, input.Passes environment prior := by
  have valid := (CertificateTemplate.buildWith_eq_ok built).validity
  intro prior before
  rcases LeafStage.mem_earlier_issuing.mp before with before | rfl
  · exact prepared.passes_earlier_period keyMade prior before
  · exact (prepared.passes_period keyMade).mpr ⟨_, valid⟩

end Prepared

/-! ### The run and its first failure -/

/-- The run ends when the files of the authority are refused. -/
theorem generate_of_load {request : CertificateRequest}
    (parsed : CertificateRequest.parse input.document = .ok request)
    (refused : Authority.load input.certificateFile input.keyFile environment =
      .error error after) :
    input.generate environment = .error error after := by
  have begins : Operation.ofExcept (CertificateRequest.parse input.document) environment =
      .ok request environment := Operation.ofExcept_eq_ok.mpr ⟨parsed, rfl⟩
  rw [generate, IssuedMaterial.generate, Operation.bind_of_ok begins]
  exact Operation.bind_eq_error.mpr (.inl refused)

/-- A stage that makes nothing is the end of the run if it fails first. -/
theorem generate_of_early (early : stage ∈ LeafStage.subjectKey.earlier)
    (fails : input.FailsAt environment stage error after)
    (passed : ∀ prior ∈ stage.earlier, input.Passes environment prior) :
    input.generate environment = .error error after := by
  cases fails with
  | request failed =>
      rw [generate, IssuedMaterial.generate]
      exact Operation.bind_eq_error.mpr (.inl (Operation.ofExcept_eq_error.mpr ⟨failed, rfl⟩))
  | certificateFile unreadable =>
      rcases (passes_request environment).mp (passed .request (by decide)) with ⟨request, parsed⟩
      exact generate_of_load parsed (Authority.load_eq_error.mpr (.inl ⟨unreadable, rfl, rfl⟩))
  | keyFile unreadable =>
      rcases (passes_request environment).mp (passed .request (by decide)) with ⟨request, parsed⟩
      rcases (passes_certificateFile environment).mp (passed .certificateFile (by decide)) with
        ⟨certificate, read⟩
      exact generate_of_load parsed
        (Authority.load_eq_error.mpr (.inr ⟨certificate, read, .inl ⟨unreadable, rfl⟩⟩))
  | pairing read keyRead different =>
      rcases (passes_request environment).mp (passed .request (by decide)) with ⟨request, parsed⟩
      exact generate_of_load parsed (Authority.load_eq_error.mpr
        (.inr ⟨_, read, .inr ⟨_, _, keyRead, different, rfl, rfl⟩⟩))
  | @usages container key keyRead nothing =>
      rcases (passes_request environment).mp (passed .request (by decide)) with ⟨request, parsed⟩
      rcases (passes_certificateFile environment).mp (passed .certificateFile (by decide)) with
        ⟨certificate, read⟩
      have certified := (passes_pairing environment read keyRead).mp (passed .pairing (by decide))
      have begins : Operation.ofExcept (CertificateRequest.parse input.document) environment =
          .ok request environment := Operation.ofExcept_eq_ok.mpr ⟨parsed, rfl⟩
      have loaded : Authority.load input.certificateFile input.keyFile environment =
          .ok ⟨certificate, key⟩ (environment.reporting [.loadedKey container]) :=
        Authority.load_eq_ok.mpr ⟨read, certified, container, keyRead, rfl⟩
      have resolved := Usage.resolve_eq input.usages (environment.reporting [.loadedKey container])
      rw [nothing, Environment.reporting_reporting] at resolved
      rw [generate, IssuedMaterial.generate, Operation.bind_of_ok begins,
        Operation.bind_of_ok loaded]
      exact Operation.bind_eq_error.mpr (.inl resolved)
  | subjectKey => exact absurd early (by decide)
  | period => exact absurd early (by decide)
  | issuing => exact absurd early (by decide)
  | overlong => exact absurd early (by decide)

/-- When the other stages are passed, the run fails for the first failure of those that make
something. -/
theorem Prepared.failsFirst_of_generate (prepared : input.Prepared)
    (failed : input.generate environment = .error error after) :
    input.FailsFirst environment error after := by
  rw [prepared.generate_eq, finish] at failed
  rcases Operation.bind_eq_error.mp failed with failed | ⟨key, between, keyMade, failed⟩
  · exact ⟨.subjectKey, .subjectKey prepared failed,
      (passes_earlier_subjectKey environment).mpr ⟨prepared⟩⟩
  rcases Operation.bind_eq_error.mp failed with unbuilt | ⟨template, last, built, failed⟩
  · rcases CertificateTemplate.buildWith_eq_error.mp unbuilt with ⟨unbounded, rfl⟩
    exact ⟨.period, .period prepared keyMade unbounded, prepared.passes_earlier_period keyMade⟩
  have passed := prepared.passes_earlier_issuing keyMade built
  rcases Operation.bind_eq_error.mp failed with unissued | ⟨certificate, final, issued, failed⟩
  · exact ⟨.issuing, .issuing prepared keyMade built (Issuer.issue_eq_error_iff.mp unissued),
      passed⟩
  · rcases Operation.ofExcept_eq_error.mp failed with ⟨unwritten, rfl⟩
    rcases IssuedMaterial.ofParts_eq_error.mp unwritten with ⟨long, rfl⟩
    exact ⟨.issuing, .overlong prepared keyMade built issued long, passed⟩

/-- Whatever stage fails of those that make something, the run ends there: they look at what the
ones before them made. -/
theorem Prepared.generate_of_late (prepared : input.Prepared)
    (late : stage ∉ LeafStage.subjectKey.earlier)
    (fails : input.FailsAt environment stage error after) :
    input.generate environment = .error error after := by
  rw [prepared.generate_eq, finish]
  cases fails with
  | subjectKey others failed =>
      obtain rfl := prepared.eq others
      exact Operation.bind_eq_error.mpr (.inl failed)
  | period others keyMade failed =>
      obtain rfl := prepared.eq others
      rw [Operation.bind_of_ok keyMade]
      exact Operation.bind_eq_error.mpr
        (.inl (CertificateTemplate.buildWith_eq_error.mpr ⟨failed, rfl⟩))
  | issuing others keyMade built failed =>
      obtain rfl := prepared.eq others
      rw [Operation.bind_of_ok keyMade, Operation.bind_of_ok built]
      exact Operation.bind_eq_error.mpr (.inl (Issuer.issue_eq_error_iff.mpr failed))
  | overlong others keyMade built issued long =>
      obtain rfl := prepared.eq others
      rw [Operation.bind_of_ok keyMade, Operation.bind_of_ok built, Operation.bind_of_ok issued]
      exact Operation.ofExcept_eq_error.mpr
        ⟨IssuedMaterial.ofParts_eq_error.mpr ⟨long, rfl⟩, rfl⟩
  | request => exact absurd (by decide) late
  | certificateFile => exact absurd (by decide) late
  | keyFile => exact absurd (by decide) late
  | pairing => exact absurd (by decide) late
  | usages => exact absurd (by decide) late

/-- If a stage fails, then a stage fails first. -/
theorem exists_failsFirst (environment : Environment) (stage : LeafStage)
    (failed : ¬ input.Passes environment stage) :
    ∃ first error after, input.FailsAt environment first error after ∧
      ∀ prior ∈ first.earlier, input.Passes environment prior := by
  rcases exists_first LeafStage.length_earlier_lt stage failed with ⟨first, failed, passed⟩
  obtain ⟨error, after, fails⟩ : ∃ error after,
      input.FailsAt environment first error after := by
    simpa [Passes] using failed
  exact ⟨first, error, after, fails, passed⟩

/-- Making a certificate fails as the first stage that fails does. -/
theorem generate_eq_error_iff :
    input.generate environment = .error error after ↔
      input.FailsFirst environment error after := by
  by_cases prepared : Nonempty input.Prepared
  · rcases prepared with ⟨prepared⟩
    constructor
    · exact prepared.failsFirst_of_generate
    · rintro ⟨stage, fails, _⟩
      refine prepared.generate_of_late (fun early => ?_) fails
      exact (passes_earlier_subjectKey environment).mpr ⟨prepared⟩ stage early _ _ fails
  · constructor
    · intro failed
      obtain ⟨prior, early, refused⟩ : ∃ prior ∈ LeafStage.subjectKey.earlier,
          ¬ input.Passes environment prior := by
        simpa using mt (passes_earlier_subjectKey environment).mp prepared
      rcases exists_failsFirst environment prior refused with ⟨first, error, after, fails, passed⟩
      have firstEarly : first ∈ LeafStage.subjectKey.earlier := by
        by_contra late
        exact refused (passed prior (LeafStage.mem_earlier_of_not_mem late early))
      rw [generate_of_early firstEarly fails passed] at failed
      cases failed
      exact ⟨first, fails, passed⟩
    · rintro ⟨stage, fails, passed⟩
      refine generate_of_early ?_ fails passed
      by_contra late
      exact prepared ((passes_earlier_subjectKey environment).mp fun prior early =>
        passed prior (LeafStage.mem_earlier_of_not_mem late early))

/-! ### What the failure depends on -/

/-- Inputs are the same in what the stages up to a stage look at. -/
structure AgreesUpTo (stage : LeafStage) (input other : LeafInput) : Prop where
  document : .request ∈ stage.upTo → other.document = input.document
  certificateFile : .certificateFile ∈ stage.upTo → other.certificateFile = input.certificateFile
  keyFile : .keyFile ∈ stage.upTo → other.keyFile = input.keyFile
  usages : .usages ∈ stage.upTo → other.usages = input.usages
  lifetime : .period ∈ stage.upTo → other.lifetime = input.lifetime
  now : .period ∈ stage.upTo → other.now = input.now

namespace AgreesUpTo

theorem symm (agrees : AgreesUpTo stage input other) : AgreesUpTo stage other input where
  document reached := (agrees.document reached).symm
  certificateFile reached := (agrees.certificateFile reached).symm
  keyFile reached := (agrees.keyFile reached).symm
  usages reached := (agrees.usages reached).symm
  lifetime reached := (agrees.lifetime reached).symm
  now reached := (agrees.now reached).symm

theorem of_earlier {prior : LeafStage} (before : prior ∈ stage.earlier)
    (agrees : AgreesUpTo stage input other) : AgreesUpTo prior input other where
  document reached := agrees.document (LeafStage.upTo_subset before reached)
  certificateFile reached := agrees.certificateFile (LeafStage.upTo_subset before reached)
  keyFile reached := agrees.keyFile (LeafStage.upTo_subset before reached)
  usages reached := agrees.usages (LeafStage.upTo_subset before reached)
  lifetime reached := agrees.lifetime (LeafStage.upTo_subset before reached)
  now reached := agrees.now (LeafStage.upTo_subset before reached)

theorem eq (agrees : AgreesUpTo stage input other) (late : .period ∈ stage.upTo)
    (all : ∀ prior ∈ LeafStage.subjectKey.earlier, prior ∈ stage.upTo) : other = input := by
  rcases input with ⟨document, certificateFile, keyFile, usages, lifetime, now⟩
  rcases other with ⟨_, _, _, _, _, _⟩
  obtain rfl := agrees.document (all _ (by decide))
  obtain rfl := agrees.certificateFile (all _ (by decide))
  obtain rfl := agrees.keyFile (all _ (by decide))
  obtain rfl := agrees.usages (all _ (by decide))
  obtain rfl := agrees.lifetime late
  obtain rfl := agrees.now late
  rfl

end AgreesUpTo

/-- Whether a stage fails, and how, depends on no more than what the stages up to it look at. -/
theorem FailsAt.of_agrees (agrees : AgreesUpTo stage input other)
    (fails : input.FailsAt environment stage error after) :
    other.FailsAt environment stage error after := by
  cases fails with
  | request failed =>
      rw [← agrees.document (by decide)] at failed
      exact .request failed
  | certificateFile unreadable =>
      rw [← agrees.certificateFile (by decide)] at unreadable
      exact .certificateFile unreadable
  | keyFile unreadable =>
      rw [← agrees.keyFile (by decide)] at unreadable
      exact .keyFile unreadable
  | pairing read keyRead different =>
      rw [← agrees.certificateFile (by decide)] at read
      rw [← agrees.keyFile (by decide)] at keyRead
      exact .pairing read keyRead different
  | usages keyRead nothing =>
      rw [← agrees.keyFile (by decide)] at keyRead
      have same := agrees.usages (by decide)
      rw [preparations, ← same]
      rw [← same] at nothing
      exact .usages keyRead nothing
  | subjectKey prepared failed =>
      rcases input with ⟨document, certificateFile, keyFile, usages, lifetime, now⟩
      rcases other with ⟨_, _, _, _, otherLifetime, otherNow⟩
      obtain rfl := agrees.document (by decide)
      obtain rfl := agrees.certificateFile (by decide)
      obtain rfl := agrees.keyFile (by decide)
      obtain rfl := agrees.usages (by decide)
      rcases prepared with ⟨request, holder, container, parsed, read, keyRead, certified, wanted⟩
      exact .subjectKey
        ⟨request, holder, container, parsed, read, keyRead, certified, wanted⟩ failed
  | period prepared keyMade failed =>
      obtain rfl := agrees.eq (by decide) (by decide)
      exact .period prepared keyMade failed
  | issuing prepared keyMade built failed =>
      obtain rfl := agrees.eq (by decide) (by decide)
      exact .issuing prepared keyMade built failed
  | overlong prepared keyMade built issued long =>
      obtain rfl := agrees.eq (by decide) (by decide)
      exact .overlong prepared keyMade built issued long

/-- The error does not depend on what only later stages look at. -/
theorem generate_eq_error_of_agrees
    (fails : input.FailsAt environment stage error after)
    (passed : ∀ prior ∈ stage.earlier, input.Passes environment prior)
    (agrees : AgreesUpTo stage input other) :
    other.generate environment = .error error after := by
  refine generate_eq_error_iff.mpr ⟨stage, fails.of_agrees agrees, fun prior before => ?_⟩
  intro otherError otherAfter otherFails
  exact passed prior before otherError otherAfter
    (otherFails.of_agrees (agrees.of_earlier before).symm)

/-- The stages that make nothing fail alike in all surroundings. -/
theorem FailsAt.exists_events (early : stage ∈ LeafStage.subjectKey.earlier)
    (fails : input.FailsAt environment stage error after) :
    ∃ events, (∀ event ∈ events, event.isPreparatory = true) ∧
      ∀ surroundings, input.FailsAt surroundings stage error (surroundings.reporting events) := by
  cases fails with
  | request failed =>
      exact ⟨[], List.forall_mem_nil _, fun surroundings => by
        simpa using FailsAt.request failed⟩
  | certificateFile unreadable =>
      exact ⟨[], List.forall_mem_nil _, fun surroundings => by
        simpa using FailsAt.certificateFile unreadable⟩
  | keyFile unreadable =>
      exact ⟨[], List.forall_mem_nil _, fun surroundings => by
        simpa using FailsAt.keyFile unreadable⟩
  | @pairing _ container _ read keyRead different =>
      refine ⟨[.loadedKey container], ?_, fun surroundings => .pairing read keyRead different⟩
      simp [Event.isPreparatory]
  | @usages container _ keyRead nothing =>
      refine ⟨input.preparations container, ?_, fun surroundings => .usages keyRead nothing⟩
      simp [preparations, Usage.unknownEvents, Event.isPreparatory]
  | subjectKey => exact absurd early (by decide)
  | period => exact absurd early (by decide)
  | issuing => exact absurd early (by decide)
  | overlong => exact absurd early (by decide)

/-- If one of the stages that make nothing fails, then so does the run, in all surroundings with
the same error.  No randomness is used up, and nothing is reported but preparations. -/
theorem exists_generate_eq_error (early : stage ∈ LeafStage.subjectKey.earlier)
    (failed : ¬ input.Passes environment stage) :
    ∃ error events, (∀ event ∈ events, event.isPreparatory = true) ∧
      ∀ surroundings,
        input.generate surroundings = .error error (surroundings.reporting events) := by
  rcases exists_failsFirst environment stage failed with ⟨first, error, after, fails, passed⟩
  have firstEarly : first ∈ LeafStage.subjectKey.earlier := by
    by_contra late
    exact failed (passed stage (LeafStage.mem_earlier_of_not_mem late early))
  rcases fails.exists_events firstEarly with ⟨events, preparatory, everywhere⟩
  refine ⟨error, events, preparatory, fun surroundings => ?_⟩
  refine generate_eq_error_iff.mpr ⟨first, everywhere surroundings, fun prior before => ?_⟩
  intro priorError priorAfter priorFails
  have priorEarly : prior ∈ LeafStage.subjectKey.earlier :=
    LeafStage.earlier_subset firstEarly before
  rcases priorFails.exists_events priorEarly with ⟨_, _, everywhere⟩
  exact passed prior before _ _ (everywhere environment)

end LeafInput

end CertAuthority
