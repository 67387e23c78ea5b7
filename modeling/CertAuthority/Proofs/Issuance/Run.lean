import CertAuthority.Proofs.Issuance.Stages
import CertAuthority.Proofs.Issuance.TrustChain

/-!
# Runs of calls

A run is any sequence of calls that make authorities, make certificates or issue
templates, each in the surroundings that the one before left.  Any call may be
given what another one returned.

Every certificate that a call returns was announced by one report, and these
reports stand in the order of the calls (`Announced`).  A call that fails reports
no certificate, with one exception: that a certificate is longer than encodings
may be is only found after it was issued.
-/

namespace CertAuthority

open X509 (Certificate)

/-! ## Calls and runs -/

/-- The calls that return a certificate. -/
inductive Call where
  | generateCa (document : Octets) (lifetime : Duration) (now : Instant)
  | generate (input : LeafInput)
  | issue (issuer : Issuer) (template : CertificateTemplate)

/-- What a call returns: the files of a certificate and its key, or a certificate. -/
inductive Product where
  | material (material : IssuedMaterial)
  | certificate (certificate : Certificate)

/-- Does what is called for. -/
def Call.perform : Call → Operation Product
  | generateCa document lifetime now => do
      return .material (← IssuedMaterial.generateCa document lifetime now)
  | generate input => do return .material (← input.generate)
  | issue issuer template => do return .certificate (← issuer.issue template)

/-- A call with its outcome. -/
structure Step where
  call : Call
  outcome : Except Error Product

/-- Calls one after another, from some surroundings to others. -/
inductive Run : Environment → List Step → Environment → Prop
  | nil (environment : Environment) : Run environment [] environment
  | ok {before between after : Environment} {call : Call} {product : Product} {steps : List Step}
      (performed : call.perform before = .ok product between) (others : Run between steps after) :
      Run before (⟨call, .ok product⟩ :: steps) after
  | error {before between after : Environment} {call : Call} {error : Error} {steps : List Step}
      (failed : call.perform before = .error error between) (others : Run between steps after) :
      Run before (⟨call, .error error⟩ :: steps) after

/-! ### Three calls -/

namespace Entropy

/-- Two supplies have a number of next octets in common. -/
def AgreesFor (count : Nat) (entropy other : Entropy) : Prop :=
  ∀ place < count, entropy.stream (entropy.used + place) = other.stream (other.used + place)

namespace AgreesFor

variable {count more total : Nat} {entropy other : Entropy}

theorem take_eq (agrees : AgreesFor total entropy other) (few : count ≤ total) :
    (entropy.take count).1 = (other.take count).1 :=
  List.map_congr_left fun place member => agrees place ((List.mem_range.mp member).trans_le few)

theorem rest (agrees : AgreesFor (count + more) entropy other) :
    AgreesFor more (entropy.take count).2 (other.take count).2 := by
  intro place below
  have same := agrees (count + place) (Nat.add_lt_add_left below count)
  rw [← Nat.add_assoc, ← Nat.add_assoc] at same
  exact same

end AgreesFor

/-- A supply that starts again after a number of octets, from the start of a round on. -/
def repeated (entropy : Entropy) (period round : Nat) : Entropy :=
  ⟨fun place => entropy.stream (entropy.used + place % period), period * round⟩

theorem repeated_agreesFor (entropy : Entropy) (period round : Nat) :
    AgreesFor period entropy (entropy.repeated period round) := by
  intro place below
  have same : (period * round + place) % period = place := by
    rw [Nat.mul_add_mod, Nat.mod_eq_of_lt below]
  exact congrArg (fun place => entropy.stream (entropy.used + place)) same.symm

end Entropy

/-- How many octets a certificate takes: those of two factors and of a serial number. -/
def sampleOctets (bits : Nat) : Nat :=
  (bits / 2 + 7) / 8 + ((bits - bits / 2 + 7) / 8 + 8)

/-- Only the next octets of a supply matter for a request to be served. -/
theorem IsSample.of_agreesFor {key : Rsa.PrivateKey} {bits : Nat} {entropy other : Entropy}
    (isSample : IsSample key bits entropy)
    (agrees : Entropy.AgreesFor (sampleOctets bits) entropy other) : IsSample key bits other := by
  have afterFirst := agrees.rest
  have first := agrees.take_eq (Nat.le_add_right _ _)
  have second := afterFirst.take_eq (Nat.le_add_right _ _)
  have serial := afterFirst.rest.take_eq le_rfl
  have template : ∀ usage isCa,
      sampleTemplate key bits entropy usage isCa = sampleTemplate key bits other usage isCa := by
    intro usage isCa
    exact congrArg (fun octets => { sampleTemplate key bits entropy usage isCa with
      serialNumber := CertificateTemplate.serialOfEntropy octets }) serial
  refine
    { isFirst :=
        { isSample.isFirst with
          firstDrawn := ?_
          secondDrawn := ?_ }
      many := isSample.many
      accepted := isSample.accepted
      parsed := isSample.parsed
      ca_isShort := ?_
      leaf_isShort := ?_ }
  · rw [← isSample.isFirst.firstDrawn]
    exact congrArg (Rsa.candidate _) first.symm
  · rw [← isSample.isFirst.secondDrawn]
    exact congrArg (Rsa.candidate _) second.symm
  · rw [← template]
    exact isSample.ca_isShort
  · rw [← template]
    exact isSample.leaf_isShort

/-- The octets of the key of 2048 bits, from the start of a round on. -/
def sampleRound (round : Nat) : Entropy :=
  Rsa.usualEntropy.repeated (sampleOctets 2048) round

theorem isSample_sampleRound (round : Nat) : IsSample Rsa.usualKey 2048 (sampleRound round) :=
  isSample_usualKey.of_agreesFor (Entropy.repeated_agreesFor _ _ round)

theorem rest_sampleRound (round : Nat) :
    ((Rsa.afterFactors 2048 (sampleRound round)).take 8).2 = sampleRound (round + 1) := by
  have used : sampleOctets 2048 * round + 128 + 128 + 8 = sampleOctets 2048 * (round + 1) := by
    rw [Nat.mul_add_one]
    rfl
  exact congrArg (Entropy.mk _) used

/-- What a certificate is made from with the files of another one. -/
def sampleInput (material : IssuedMaterial) : LeafInput :=
  { document := sampleDocument 2048
    certificateFile := material.certificate
    keyFile := material.privateKey
    usages := ["signing"]
    lifetime := Duration.ofSeconds 0
    now := sampleNow }

/-- An authority, a certificate made with its files, and one made with the files of that. -/
def sampleSteps (ca leaf lower : IssuedMaterial) : List Step :=
  [⟨.generateCa (sampleDocument 2048) (Duration.ofSeconds 0) sampleNow, .ok (.material ca)⟩,
    ⟨.generate (sampleInput ca), .ok (.material leaf)⟩,
    ⟨.generate (sampleInput leaf), .ok (.material lower)⟩]

/-- The three calls succeed. -/
theorem exists_sampleRun : ∃ ca leaf lower after,
    Run ⟨sampleRound 0, []⟩ (sampleSteps ca leaf lower) after := by
  rcases IssuedMaterial.exists_generateCa (isSample_sampleRound 0) [] with
    ⟨ca, ⟨entropy, events⟩, caMade, rest, caMaking, caKey, caBuilt⟩
  obtain rfl : entropy = sampleRound 1 := rest.trans (rest_sampleRound 0)
  rcases IssuedMaterial.exists_generate (isSample_sampleRound 1) caKey caBuilt events with
    ⟨leaf, ⟨entropy, events⟩, leafMade, rest, leafMaking, leafKey, leafBuilt⟩
  obtain rfl : entropy = sampleRound 2 := rest.trans (rest_sampleRound 1)
  have noKeyId : (Issuer.authority leafMaking.holder).keyId = .ok none := by
    rw [IssuedMaterial.Making.keyId_authority, leafBuilt]
    rfl
  rcases IssuedMaterial.exists_generate_of_keyId (isSample_sampleRound 2) leafKey
    (by rw [leafBuilt]; rfl) noKeyId (by decide +kernel) events with ⟨lower, after, lowerMade, _⟩
  exact ⟨ca, leaf, lower, after, .ok (Operation.bind_eq_ok.mpr ⟨ca, _, caMade, rfl⟩)
    (.ok (Operation.bind_eq_ok.mpr ⟨leaf, _, leafMade, rfl⟩)
      (.ok (Operation.bind_eq_ok.mpr ⟨lower, _, lowerMade, rfl⟩) (.nil after)))⟩

/-! ## Reports of certificates -/

/-- Whether an event reports that a certificate was issued. -/
def Event.isIssued : Event → Bool
  | issuedCertificate _ _ _ => true
  | unknownUsage _ | loadedKey _ | generatingKey _ _ => false

/-- The events other than that. -/
def Event.IsQuiet (event : Event) : Prop := event.isIssued = false

theorem Event.isQuiet {event : Event} (other : event.isIssued = false) : event.IsQuiet := other

/-- An event reports the certificate of a template: its serial number, and the name and the kind
that the template gives. -/
structure CertificateTemplate.IsReportedBy (template : CertificateTemplate)
    (certificate : Certificate) (event : Event) : Prop where
  event_eq : event = .issuedCertificate template.serialNumber.toNat template.subject.commonName
    template.isCa
  serialNumber : certificate.tbs.serialNumber.value = template.serialNumber.toNat

/-- An event reports a certificate that is too long to be written. -/
def Event.ReportsOverlong (event : Event) : Prop :=
  ∃ (template : CertificateTemplate) (certificate : Certificate),
    template.IsReportedBy certificate event ∧ Der.maxLength < certificate.encode.length

/-- The reports of certificates between two surroundings, in their order. -/
def Environment.Issues (before : Environment) (issued : List Event) (after : Environment) : Prop :=
  ∃ added, after.events = before.events ++ added ∧ added.filter Event.isIssued = issued

namespace Environment

theorem Adds.issues {before after : Environment} (quiet : Adds Event.IsQuiet before after) :
    before.Issues [] after := by
  rcases quiet with ⟨added, events, each⟩
  refine ⟨added, events, List.filter_eq_nil_iff.mpr fun event member => ?_⟩
  rw [each event member]
  exact Bool.false_ne_true

theorem Issues.refl (environment : Environment) : environment.Issues [] environment :=
  (Adds.refl environment).issues

theorem Issues.trans {first second third : Environment} {issued others : List Event}
    (one : first.Issues issued second) (two : second.Issues others third) :
    first.Issues (issued ++ others) third := by
  rcases one with ⟨added, events, rfl⟩
  rcases two with ⟨otherAdded, otherEvents, rfl⟩
  refine ⟨added ++ otherAdded, ?_, List.filter_append _ _⟩
  rw [otherEvents, events, List.append_assoc]

end Environment

namespace Operation

variable {α β : Type}

theorem ReportsWithin.issues_of_ok {operation : Operation α} {before after : Environment}
    {value : α} (quiet : ReportsWithin Event.IsQuiet operation)
    (done : operation before = .ok value after) : before.Issues [] after := by
  have adds := quiet before
  rw [after_of_ok done] at adds
  exact adds.issues

theorem ReportsWithin.issues_of_error {operation : Operation α} {before after : Environment}
    {error : Error} (quiet : ReportsWithin Event.IsQuiet operation)
    (failed : operation before = .error error after) : before.Issues [] after := by
  have adds := quiet before
  rw [after_of_error failed] at adds
  exact adds.issues

/-- An operation reports one certificate if it returns something, and none if it fails, unless what
was issued is too long to be written. -/
structure Announces (operation : Operation α) (announced : α → Event → Prop) : Prop where
  ok {before after : Environment} {value : α} (done : operation before = .ok value after) :
    ∃ event, announced value event ∧ before.Issues [event] after
  error {before after : Environment} {error : Error}
    (failed : operation before = .error error after) :
    before.Issues [] after ∨
      error = .overlong ∧ ∃ event, event.ReportsOverlong ∧ before.Issues [event] after

namespace Announces

variable {announced : α → Event → Prop}

/-- Nothing changes if something is done before that reports no certificate. -/
theorem after_quiet {first : Operation β} {next : β → Operation α}
    (quiet : ReportsWithin Event.IsQuiet first)
    (later : ∀ {environment value between}, first environment = .ok value between →
      (next value).Announces announced) :
    (first >>= next).Announces announced where
  ok done := by
    rcases bind_eq_ok.mp done with ⟨value, between, begun, done⟩
    rcases (later begun).ok done with ⟨event, holds, issues⟩
    exact ⟨event, holds, (quiet.issues_of_ok begun).trans issues⟩
  error failed := by
    rcases bind_eq_error.mp failed with failed | ⟨value, between, begun, failed⟩
    · exact .inl (quiet.issues_of_error failed)
    · have none := quiet.issues_of_ok begun
      rcases (later begun).error failed with issues | ⟨overlong, event, long, issues⟩
      · exact .inl (none.trans issues)
      · exact .inr ⟨overlong, event, long, none.trans issues⟩

/-- Nothing but the length can go wrong in writing what was issued. -/
theorem ofExcept {issue : Operation β} {write : β → Except Error α}
    {issued : β → Event → Prop} (announces : issue.Announces issued)
    (fails : ∀ {value error}, write value = .error error →
      error = .overlong ∧ ∀ event, issued value event → event.ReportsOverlong)
    (keeps : ∀ {value written event}, issued value event → write value = .ok written →
      announced written event) :
    (issue >>= fun value => Operation.ofExcept (write value)).Announces announced where
  ok done := by
    rcases bind_eq_ok.mp done with ⟨value, between, begun, done⟩
    rcases ofExcept_eq_ok.mp done with ⟨written, rfl⟩
    rcases announces.ok begun with ⟨event, holds, issues⟩
    exact ⟨event, keeps holds written, issues⟩
  error failed := by
    rcases bind_eq_error.mp failed with failed | ⟨value, between, begun, failed⟩
    · exact announces.error failed
    · rcases ofExcept_eq_error.mp failed with ⟨unwritten, rfl⟩
      rcases announces.ok begun with ⟨event, holds, issues⟩
      rcases fails unwritten with ⟨overlong, long⟩
      exact .inr ⟨overlong, event, long event holds, issues⟩

/-- The result may be given in another form. -/
theorem map {operation : Operation β} {convert : β → α} {before : β → Event → Prop}
    (announces : operation.Announces before)
    (keeps : ∀ {value event}, before value event → announced (convert value) event) :
    (operation >>= fun value => pure (convert value)).Announces announced := by
  have written : (operation >>= fun value =>
      Operation.ofExcept (.ok (convert value))).Announces announced :=
    announces.ofExcept nofun fun holds written => by
      rw [← Except.ok.inj written]
      exact keeps holds
  exact written

end Announces

end Operation

/-! ## What reports no certificate -/

section Quiet

open Operation (ReportsWithin)

theorem Key.load_isQuiet (file : Octets) : ReportsWithin Event.IsQuiet (load file) := by
  refine (ReportsWithin.ofOption _ _).bind fun octets => ?_
  refine (ReportsWithin.ofOption _ _).bind fun found => ?_
  exact (ReportsWithin.report (Event.isQuiet rfl)).bind fun _ => ReportsWithin.pure _

theorem Authority.load_isQuiet (certificateFile keyFile : Octets) :
    ReportsWithin Event.IsQuiet (load certificateFile keyFile) := by
  refine (ReportsWithin.ofOption _ _).bind fun certificate => ?_
  exact (Key.load_isQuiet keyFile).bind fun key => ReportsWithin.ofExcept _

theorem Usage.resolve_isQuiet (names : List String) :
    ReportsWithin Event.IsQuiet (resolve names) := by
  have looksUp : ReportsWithin Event.IsQuiet (lookup names) :=
    (ReportsWithin.forM fun name => ReportsWithin.report (Event.isQuiet rfl)).bind fun _ =>
      ReportsWithin.pure _
  refine looksUp.bind fun usage => ?_
  split
  · exact ReportsWithin.throw _
  · exact ReportsWithin.pure _

variable {allowed : Event → Prop}

theorem Rsa.findPrime_reportsWithin (bits attempts : Nat) :
    ReportsWithin allowed (findPrime bits attempts) := by
  induction attempts with
  | zero => exact ReportsWithin.throw _
  | succ attempts ih =>
      refine (ReportsWithin.draw _).bind fun octets => ?_
      simp only
      split
      · exact ReportsWithin.pure _
      · exact ih

theorem Rsa.generateWithin_reportsWithin (bits attempts : Nat) :
    ReportsWithin allowed (generateWithin bits attempts) := by
  induction attempts with
  | zero => exact ReportsWithin.throw _
  | succ attempts ih =>
      refine (findPrime_reportsWithin _ _).bind fun first => ?_
      refine (findPrime_reportsWithin _ _).bind fun second => ?_
      split
      · exact ReportsWithin.pure _
      · exact ih

theorem KeyPair.generate_reportsWithin (algorithm : KeyAlgorithm) (size : Nat) :
    ReportsWithin allowed (generate algorithm size) := by
  have scalar (curve : NistCurve) : ReportsWithin allowed (drawScalar curve) :=
    (ReportsWithin.draw _).bind fun _ => ReportsWithin.pure _
  unfold generate
  split
  · exact (scalar .p256).bind fun _ => ReportsWithin.pure _
  · exact (scalar .p384).bind fun _ => ReportsWithin.pure _
  · exact (scalar .p521).bind fun _ => ReportsWithin.pure _
  · exact ReportsWithin.throw _
  · exact (Rsa.generateWithin_reportsWithin _ _).bind fun _ => ReportsWithin.pure _

theorem Key.generate_isQuiet (algorithm : KeyAlgorithm) (size : Nat) :
    ReportsWithin Event.IsQuiet (generate algorithm size) := by
  refine (ReportsWithin.ofExcept _).bind fun _ => ?_
  refine (ReportsWithin.report (Event.isQuiet rfl)).bind fun _ => ?_
  exact (KeyPair.generate_reportsWithin _ _).bind fun _ => ReportsWithin.pure _

theorem CertificateTemplate.buildWith_reportsWithin (request : CertificateRequest) (key : Key)
    (lifetime : Duration) (usage : Usage) (isCa : Bool) (now : Instant) :
    ReportsWithin allowed (buildWith request key lifetime usage isCa now) := by
  refine (ReportsWithin.ofExcept _).bind fun validity => ?_
  exact (ReportsWithin.draw _).bind fun _ => ReportsWithin.pure _

theorem CertificateTemplate.build_isQuiet (request : CertificateRequest) (key : Key)
    (lifetime : Duration) (usages : List String) (isCa : Bool) (now : Instant) :
    ReportsWithin Event.IsQuiet (build request key lifetime usages isCa now) :=
  (Usage.resolve_isQuiet usages).bind fun _ => buildWith_reportsWithin _ _ _ _ _ _

theorem KeyPair.sign_reportsWithin (pair : KeyPair) (message : Octets) :
    ReportsWithin allowed (pair.sign message) := by
  cases pair with
  | rsa key =>
      rw [sign_rsa]
      exact ReportsWithin.ofOption _ _
  | ecdsa curve scalar =>
      rw [sign_ecdsa]
      refine ReportsWithin.bind ?_ fun nonce => ?_
      · unfold signatureNonce
        split
        · exact (ReportsWithin.draw _).bind fun _ => ReportsWithin.pure _
        · exact ReportsWithin.ofOption _ _
      · exact (ReportsWithin.ofOption _ _).bind fun _ => ReportsWithin.pure _

theorem Key.sign_reportsWithin (key : Key) (message : Octets) :
    ReportsWithin allowed (key.sign message) := by
  rw [sign_eq]
  exact key.pair.sign_reportsWithin message

end Quiet

/-! ## The report of a certificate -/

theorem Issuer.issue_announces (issuer : Issuer) (template : CertificateTemplate) :
    (issuer.issue template).Announces fun certificate event =>
      (certificate.IsReadable ↔ issuer.IsReadable template) ∧
        template.IsReportedBy certificate event where
  ok {before after certificate} issued := by
    have readable := isReadable_iff_of_issue issued
    have serialNumber : certificate.tbs.serialNumber.value = template.serialNumber.toNat := by
      rcases exists_stated_of_issue issued with ⟨_, _, ⟨stated⟩⟩
      rw [stated.serialNumber_eq, X509.SerialNumber.value_ofNat]
    rw [issue_eq] at issued
    rcases Operation.ofExcept_bind_eq_ok.mp issued with ⟨keyId, _, issued⟩
    rcases Operation.ofExcept_bind_eq_ok.mp issued with ⟨tbs, _, issued⟩
    rcases Operation.bind_eq_ok.mp issued with ⟨signature, between, signed, issued⟩
    rcases Operation.bind_eq_ok.mp issued with ⟨_, _, reported, issued⟩
    cases reported
    rcases Operation.pure_eq_ok.mp issued with ⟨_, rfl⟩
    have quiet := (issuer.key.sign_reportsWithin _).issues_of_ok signed
    exact ⟨_, ⟨readable, rfl, serialNumber⟩, quiet.trans ⟨[_], rfl, rfl⟩⟩
  error failed := by
    rcases issue_eq_error.mp failed with ⟨_, rfl⟩ | ⟨_, _, ⟨_, rfl⟩ | ⟨_, _, refused⟩⟩
    · exact .inl (.refl _)
    · exact .inl (.refl _)
    · exact .inl ((issuer.key.sign_reportsWithin _).issues_of_error refused)

namespace Call

/-- What a call returns contains a certificate for a template.  For a request document, this is the
certificate in the returned file; the template has the subject of the request, and says whether an
authority was asked for. -/
inductive Returns : Call → Product → CertificateTemplate → Certificate → Prop
  | generateCa {document : Octets} {lifetime : Duration} {now : Instant}
      {request : CertificateRequest} {material : IssuedMaterial} {template : CertificateTemplate}
      {certificate : Certificate} (parsed : CertificateRequest.parse document = .ok request)
      (read : Certificate.ofFile material.certificate = .ok certificate)
      (subject : template.subject = request.subject) (isCa : template.isCa = true) :
      Returns (.generateCa document lifetime now) (.material material) template certificate
  | generate {input : LeafInput} {request : CertificateRequest} {material : IssuedMaterial}
      {template : CertificateTemplate} {certificate : Certificate}
      (parsed : CertificateRequest.parse input.document = .ok request)
      (read : Certificate.ofFile material.certificate = .ok certificate)
      (subject : template.subject = request.subject) (isCa : template.isCa = false) :
      Returns (.generate input) (.material material) template certificate
  | issue {issuer : Issuer} {template : CertificateTemplate} {certificate : Certificate} :
      Returns (.issue issuer template) (.certificate certificate) template certificate

/-- An event reports the certificate that a call returned. -/
def Reported (call : Call) (product : Product) (event : Event) : Prop :=
  ∃ template certificate, call.Returns product template certificate ∧
    template.IsReportedBy certificate event

/-- Issuing a template and writing the files announces the certificate that is read from them. -/
theorem announces_material {issuer : Issuer} {template : CertificateTemplate} {key : Key}
    {announced : IssuedMaterial → Event → Prop} (readable : issuer.IsReadable template)
    (keeps : ∀ {material certificate event}, template.IsReportedBy certificate event →
      Certificate.ofFile material.certificate = .ok certificate → announced material event) :
    (issuer.issue template >>= fun certificate =>
      Operation.ofExcept (IssuedMaterial.ofParts certificate key)).Announces announced := by
  refine (issuer.issue_announces template).ofExcept (fun unwritten => ?_) ?_
  · rcases IssuedMaterial.ofParts_eq_error.mp unwritten with ⟨long, overlong⟩
    exact ⟨overlong, fun _ holds => ⟨template, _, holds.2, long⟩⟩
  · rintro certificate material event ⟨same, reported⟩ written
    rcases IssuedMaterial.ofParts_eq_ok written with ⟨short, file, _⟩
    refine keeps reported ?_
    rw [file, Certificate.ofFile_file short, if_pos (same.mpr readable)]

theorem generateCa_announces (document : Octets) (lifetime : Duration) (now : Instant) :
    (IssuedMaterial.generateCa document lifetime now).Announces fun material event =>
      Reported (.generateCa document lifetime now) (.material material) event := by
  refine .after_quiet (Operation.ReportsWithin.ofExcept _) fun parsing => ?_
  have parsed := (Operation.ofExcept_eq_ok.mp parsing).1
  refine .after_quiet (Key.generate_isQuiet _ _) fun _ => ?_
  refine .after_quiet (CertificateTemplate.build_isQuiet _ _ _ _ _ _) fun built => ?_
  have fields := CertificateTemplate.build_eq_ok built
  refine announces_material (Issuer.isReadable_of_publicKey ?_ fields.publicKey)
    fun reported read => ?_
  · exact DistinguishedName.isReadable_toName _
  · exact ⟨_, _, .generateCa parsed read fields.subject fields.isCa, reported⟩

theorem generate_announces (input : LeafInput) :
    input.generate.Announces fun material event =>
      Reported (.generate input) (.material material) event := by
  refine .after_quiet (Operation.ReportsWithin.ofExcept _) fun parsing => ?_
  have parsed := (Operation.ofExcept_eq_ok.mp parsing).1
  refine .after_quiet (Authority.load_isQuiet _ _) fun loaded => ?_
  have holderRead := Certificate.isReadable_of_ofFile? (Authority.load_eq_ok.mp loaded).1
  refine .after_quiet (Usage.resolve_isQuiet _) fun _ => ?_
  refine .after_quiet (Key.generate_isQuiet _ _) fun _ => ?_
  refine .after_quiet (CertificateTemplate.buildWith_reportsWithin _ _ _ _ _ _) fun built => ?_
  have fields := CertificateTemplate.buildWith_eq_ok built
  refine announces_material (Issuer.isReadable_of_publicKey holderRead.tbs.subject fields.publicKey)
    fun reported read => ?_
  exact ⟨_, _, .generate parsed read fields.subject fields.isCa, reported⟩

/-- A call that returns a certificate reports it, and reports no other. -/
theorem perform_announces (call : Call) : call.perform.Announces (call.Reported · ·) := by
  cases call with
  | generateCa document lifetime now =>
      exact (generateCa_announces document lifetime now).map id
  | generate input => exact (generate_announces input).map id
  | issue issuer template =>
      exact (issuer.issue_announces template).map fun holds => ⟨_, _, .issue, holds.2⟩

end Call

/-! ## Whole runs -/

/-- Events report the certificates that calls returned, in the order of the calls; besides, there
may be one for a call whose certificate was too long to be written. -/
inductive Announced : List Step → List Event → Prop
  | nil : Announced [] []
  | ok {call : Call} {product : Product} {event : Event} {steps : List Step} {events : List Event}
      (reported : call.Reported product event) (others : Announced steps events) :
      Announced (⟨call, .ok product⟩ :: steps) (event :: events)
  | error {call : Call} {error : Error} {steps : List Step} {events : List Event}
      (others : Announced steps events) : Announced (⟨call, .error error⟩ :: steps) events
  | overlong {call : Call} {event : Event} {steps : List Step} {events : List Event}
      (long : event.ReportsOverlong) (others : Announced steps events) :
      Announced (⟨call, .error .overlong⟩ :: steps) (event :: events)

/-- The events that report certificates in a run are those of the calls, in their order. -/
theorem Run.exists_announced {before after : Environment} {steps : List Step}
    (run : Run before steps after) :
    ∃ issued, before.Issues issued after ∧ Announced steps issued := by
  induction run with
  | nil environment => exact ⟨[], .refl environment, .nil⟩
  | @ok _ _ _ call _ _ performed _ ih =>
      rcases ih with ⟨issued, others, announced⟩
      rcases call.perform_announces.ok performed with ⟨event, reported, issues⟩
      exact ⟨event :: issued, issues.trans others, .ok reported announced⟩
  | @error _ _ _ call _ _ failed _ ih =>
      rcases ih with ⟨issued, others, announced⟩
      rcases call.perform_announces.error failed with issues | ⟨rfl, event, long, issues⟩
      · exact ⟨issued, issues.trans others, .error announced⟩
      · exact ⟨event :: issued, issues.trans others, .overlong long announced⟩

/-- What the calls that succeed return. -/
def Step.returned : List Step → List (Call × Product)
  | [] => []
  | ⟨call, .ok product⟩ :: steps => (call, product) :: Step.returned steps
  | ⟨_, .error _⟩ :: steps => Step.returned steps

/-- Unless a certificate is too long to be written, the events and the returned certificates belong
together one by one. -/
theorem Announced.forall₂ {steps : List Step} {events : List Event}
    (announced : Announced steps events)
    (written : ∀ step ∈ steps, step.outcome ≠ .error .overlong) :
    List.Forall₂ (fun result event => result.1.Reported result.2 event) (Step.returned steps)
      events := by
  induction announced with
  | nil => exact .nil
  | ok reported _ ih =>
      exact .cons reported (ih (List.forall_mem_cons.mp written).2)
  | error _ ih => exact ih (List.forall_mem_cons.mp written).2
  | overlong => exact absurd rfl (List.forall_mem_cons.mp written).1

/-- Making a certificate fails with the error of the first stage that fails, whatever the later
stages look at.  If this is one of the stages that make nothing, no randomness is used up and
nothing is reported but preparations, in all surroundings.  In a run of calls, each returned
certificate is reported once, in the order of the calls, and no others are; only a certificate that
is longer than encodings may be is reported without being returned. -/
theorem Run.fails_first_and_reports :
    (∀ (input : LeafInput) (environment : Environment),
      (∀ error after, input.generate environment = .error error after ↔
          input.FailsFirst environment error after) ∧
        ((∃ error after, input.generate environment = .error error after) ↔
          ∃ stage, ¬ input.Passes environment stage) ∧
        (∀ stage error after, input.FailsAt environment stage error after →
          (∀ prior ∈ stage.earlier, input.Passes environment prior) →
            ∀ other, LeafInput.AgreesUpTo stage input other →
              other.generate environment = .error error after) ∧
        ∀ stage ∈ LeafStage.subjectKey.earlier, ¬ input.Passes environment stage →
          ∃ error events, (∀ event ∈ events, event.isPreparatory = true) ∧
            ∀ surroundings,
              input.generate surroundings = .error error (surroundings.reporting events)) ∧
      ∀ before steps after, Run before steps after →
        ∃ issued, before.Issues issued after ∧ Announced steps issued ∧
          ((∀ step ∈ steps, step.outcome ≠ .error .overlong) →
            List.Forall₂ (fun result event => result.1.Reported result.2 event)
              (Step.returned steps) issued) := by
  refine ⟨fun input environment => ⟨fun error after => LeafInput.generate_eq_error_iff, ⟨?_, ?_⟩,
    fun stage error after fails passed other agrees =>
      LeafInput.generate_eq_error_of_agrees fails passed agrees,
    fun stage early failed => LeafInput.exists_generate_eq_error early failed⟩, ?_⟩
  · rintro ⟨error, after, failed⟩
    rcases LeafInput.generate_eq_error_iff.mp failed with ⟨stage, fails, _⟩
    exact ⟨stage, fun passed => passed error after fails⟩
  · rintro ⟨stage, failed⟩
    rcases LeafInput.exists_failsFirst environment stage failed with
      ⟨first, error, after, fails, passed⟩
    exact ⟨error, after, LeafInput.generate_eq_error_iff.mpr ⟨first, fails, passed⟩⟩
  · intro before steps after run
    rcases run.exists_announced with ⟨issued, issues, announced⟩
    exact ⟨issued, issues, announced, announced.forall₂⟩

/-- The three calls report their three certificates, one after the other. -/
theorem sampleRun_reports : ∃ ca leaf lower after, ∃ first second third : Event,
    Run ⟨sampleRound 0, []⟩ (sampleSteps ca leaf lower) after ∧
      Environment.Issues ⟨sampleRound 0, []⟩ [first, second, third] after ∧
        List.Forall₂ (fun result event => result.1.Reported result.2 event)
          (Step.returned (sampleSteps ca leaf lower)) [first, second, third] := by
  rcases exists_sampleRun with ⟨ca, leaf, lower, after, run⟩
  rcases Run.fails_first_and_reports.2 _ _ _ run with ⟨issued, issues, _, reported⟩
  have written : ∀ step ∈ sampleSteps ca leaf lower, step.outcome ≠ .error .overlong := by
    simp [sampleSteps]
  have paired := reported written
  have three : issued.length = 3 := paired.length_eq.symm
  rcases List.length_eq_three.mp three with ⟨first, second, third, rfl⟩
  exact ⟨ca, leaf, lower, after, first, second, third, run, issues, paired⟩

end CertAuthority
