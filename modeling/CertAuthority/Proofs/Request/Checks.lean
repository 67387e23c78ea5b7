import CertAuthority.Proofs.Operation
import CertAuthority.Proofs.Request.Subject
import CertAuthority.Request.Parse

/-!
# What is checked of a request

A document passes four checks, one after the other, or is refused for the first
that it fails.  The request of a document that passes has the texts of the
document, trimmed, and the entries that say something of the subject.  Whatever
serial numbers stand in entries, they make no difference to its subject.
-/

namespace CertAuthority

/-! ## The checks -/

/-- What is checked of a document. -/
inductive RequestCheck where
  | size
  | algorithm
  | policy
  | subject

namespace RequestCheck

/-- The checks before a check. -/
def earlier : RequestCheck → List RequestCheck
  | size => []
  | algorithm => [size]
  | policy => [size, algorithm]
  | subject => [size, algorithm, policy]

/-- Whether a document passes a check. -/
def Passed (document : RequestDocument) : RequestCheck → Prop
  | size => ∀ size ∈ document.keySize, 0 ≤ size
  | algorithm => document.keyAlgorithm = some "ecdsa" ∨ document.keyAlgorithm = some "rsa"
  | policy => ∀ algorithm : KeyAlgorithm, document.keyAlgorithm = some algorithm.name →
      algorithm.acceptsSize (document.keySize.getD 0).toNat = true
  | subject => document.NamesSubject

/-- Whether an error is the one of a check. -/
def Reports (document : RequestDocument) : RequestCheck → Error → Prop
  | size, error => ∃ size ∈ document.keySize, error = .negativeKeySize size
  | algorithm, error => error = .unknownKeyAlgorithm (document.keyAlgorithm.getD "")
  | policy, error => ∃ algorithm : KeyAlgorithm, document.keyAlgorithm = some algorithm.name ∧
      error = .invalidKeySize algorithm (document.keySize.getD 0).toNat
  | subject, error => error = .noSubject

theorem Reports.kind {document : RequestDocument} {check : RequestCheck} {error : Error}
    (reports : check.Reports document error) : error.kind = .validation := by
  cases check with
  | size => rcases reports with ⟨_, _, rfl⟩; rfl
  | algorithm => cases reports; rfl
  | policy => rcases reports with ⟨_, _, rfl⟩; rfl
  | subject => cases reports; rfl

theorem passed_algorithm {document : RequestDocument} :
    algorithm.Passed document ↔
      ∃ algorithm : KeyAlgorithm, document.keyAlgorithm = some algorithm.name := by
  constructor
  · rintro (ecdsa | rsa)
    · exact ⟨.ecdsa, ecdsa⟩
    · exact ⟨.rsa, rsa⟩
  · rintro ⟨algorithm, known⟩
    cases algorithm with
    | ecdsa => exact Or.inl known
    | rsa => exact Or.inr known

/-- A document that does not pass every check fails one first. -/
theorem exists_first_failed {document : RequestDocument}
    (failed : ¬ ∀ check : RequestCheck, check.Passed document) :
    ∃ check : RequestCheck, (∀ before ∈ check.earlier, before.Passed document) ∧
      ¬ check.Passed document := by
  by_contra none
  push Not at none
  have size := none .size nofun
  have algorithm := none .algorithm (by simpa [earlier] using size)
  have policy := none .policy (by simpa [earlier] using ⟨size, algorithm⟩)
  have subject := none .subject (by simpa [earlier] using ⟨size, algorithm, policy⟩)
  refine failed fun check => ?_
  cases check with
  | size => exact size
  | algorithm => exact algorithm
  | policy => exact policy
  | subject => exact subject

end RequestCheck

/-! ## Names of algorithms -/

theorem KeyAlgorithm.eq_name_of_ofName? {name : String} {algorithm : KeyAlgorithm}
    (found : ofName? name = some algorithm) : name = algorithm.name := by
  unfold ofName? at found
  split at found
  · cases found
    assumption
  · split at found
    · cases found
      assumption
    · cases found

theorem KeyAlgorithm.validate_name (algorithm : KeyAlgorithm) (size : Nat) :
    validate algorithm.name size =
      if algorithm.acceptsSize size then .ok algorithm
      else .error (.invalidKeySize algorithm size) := by
  have named : ofName algorithm.name = .ok algorithm := by cases algorithm <;> decide
  rw [validate, named]
  show (do algorithm.validateSize size; return algorithm : Except Error KeyAlgorithm) = _
  unfold validateSize
  split <;> rfl

/-! ## The request of a document -/

/-- The texts of an entry. -/
def NameEntry.texts (entry : NameEntry) : List (Option String) :=
  [entry.country, entry.province, entry.locality, entry.organization, entry.organizationalUnit,
    entry.serialNumber]

/-- The texts of one of the names of a subject, in the same order. -/
def SubjectName.texts (name : SubjectName) : List String :=
  [name.country, name.province, name.locality, name.organization, name.organizationalUnit,
    name.serialNumber]

/-- The texts of a request. -/
def CertificateRequest.texts (request : CertificateRequest) : List String :=
  [request.commonName, request.serialNumber] ++ request.hosts ++ request.names.flatMap (·.texts)

/-- What a request has of the document that it is the request of. -/
structure CertificateRequest.IsOf (request : CertificateRequest) (document : RequestDocument) :
    Prop where
  keyAlgorithm : document.keyAlgorithm = some request.keyAlgorithm.name
  keySize : document.keySize.getD 0 = request.keySize
  commonName : request.commonName = Text.trim (document.commonName.getD "")
  serialNumber : request.serialNumber = Text.trim (document.serialNumber.getD "")
  /-- The names are the entries that say something of the subject, with their texts trimmed. -/
  names : request.names.map (·.texts) = (document.entries.filter (·.Names)).map fun entry =>
    entry.texts.map fun text => Text.trim (text.getD "")
  hosts : request.hosts = (document.hosts.getD []).map Text.trim
  trimmed : ∀ text ∈ request.texts, Text.IsTrimmed text
  /-- Every value is in a set of its own, in the order of attributes and then of entries. -/
  subject : request.subject.toName = NameField.all.flatMap fun field =>
    (document.values field).map fun value =>
      Der.SetOf.singleton (DistinguishedName.attributeOf field value)
  subject_ne_nil : request.subject.toName ≠ []

namespace RequestDocument

/-- The request of a document, if it passes. -/
def request (document : RequestDocument) (algorithm : KeyAlgorithm) : CertificateRequest :=
  { keyAlgorithm := algorithm
    keySize := (document.keySize.getD 0).toNat
    commonName := SubjectName.trimmed document.commonName
    names := (document.entries.map SubjectName.ofEntry).filter (!·.isEmpty)
    hosts := (document.hosts.getD []).map Text.trim
    serialNumber := SubjectName.trimmed document.serialNumber }

theorem request_names (document : RequestDocument) (algorithm : KeyAlgorithm) :
    (document.request algorithm).names =
      (document.entries.filter (·.Names)).map SubjectName.ofEntry := by
  have kept : ∀ entry ∈ document.entries,
      (!(SubjectName.ofEntry entry).isEmpty) = decide entry.Names := by
    intro entry _
    rw [Bool.eq_iff_iff, Bool.not_eq_true', decide_eq_true_iff, ← Bool.not_eq_true,
      SubjectName.isEmpty_ofEntry, not_not]
  calc (document.entries.map SubjectName.ofEntry).filter (!·.isEmpty)
      = (document.entries.filter fun entry => !(SubjectName.ofEntry entry).isEmpty).map
          SubjectName.ofEntry := List.filter_map
    _ = (document.entries.filter (·.Names)).map SubjectName.ofEntry := by
        rw [List.filter_congr kept]

theorem isEmpty_request {document : RequestDocument} (algorithm : KeyAlgorithm) :
    ((document.request algorithm).commonName.isEmpty &&
      (document.request algorithm).names.isEmpty) = true ↔ ¬ document.NamesSubject := by
  rw [Bool.and_eq_true, String.isEmpty_iff, List.isEmpty_iff, request_names, List.map_eq_nil_iff,
    List.filter_eq_nil_iff, NamesSubject]
  simp [request, SubjectName.trimmed_eq_empty]

theorem isTrimmed_request {document : RequestDocument} {algorithm : KeyAlgorithm} {text : String}
    (member : text ∈ (document.request algorithm).texts) : Text.IsTrimmed text := by
  simp only [CertificateRequest.texts, request_names, List.mem_append, List.mem_cons,
    List.not_mem_nil, or_false, List.mem_flatMap, List.mem_map] at member
  rcases member with ((rfl | rfl) | host) | ⟨_, ⟨entry, _, rfl⟩, member⟩
  · exact Text.isTrimmed_trim _
  · exact Text.isTrimmed_trim _
  · rcases List.mem_map.mp host with ⟨_, _, rfl⟩
    exact Text.isTrimmed_trim _
  · simp only [SubjectName.texts, List.mem_cons, List.not_mem_nil, or_false] at member
    rcases member with rfl | rfl | rfl | rfl | rfl | rfl
    all_goals exact Text.isTrimmed_trim _

theorem request_isOf {document : RequestDocument} {algorithm : KeyAlgorithm}
    (natural : RequestCheck.size.Passed document)
    (known : document.keyAlgorithm = some algorithm.name) (names : document.NamesSubject) :
    (document.request algorithm).IsOf document := by
  have values : ∀ field, (document.request algorithm).subject.values field =
      document.values field := CertificateRequest.values_subject rfl rfl rfl
  have subject := CertificateRequest.toName_subject values
  refine ⟨known, ?_, rfl, rfl, ?_, rfl, fun _ => isTrimmed_request, subject, ?_⟩
  · cases size : document.keySize with
    | none => simp [request, size]
    | some bits => simp [request, size, Int.toNat_of_nonneg (natural bits size)]
  · rw [request_names, List.map_map]
    rfl
  · obtain ⟨field, written⟩ := names.exists_values_ne_nil
    rw [subject]
    intro nothing
    have all : field ∈ NameField.all := by cases field <;> decide
    exact written (List.map_eq_nil_iff.mp (List.flatMap_eq_nil_iff.mp nothing field all))

end RequestDocument

namespace CertificateRequest

section

variable {document : RequestDocument} {algorithm : KeyAlgorithm}

theorem keySizeOf_of_natural (natural : RequestCheck.size.Passed document) :
    keySizeOf document.keySize = .ok (document.keySize.getD 0).toNat := by
  cases size : document.keySize with
  | none => rfl
  | some bits => exact if_neg (Int.not_lt.mpr (natural bits size))

theorem ofDocument_of_natural (natural : RequestCheck.size.Passed document)
    (known : document.keyAlgorithm = some algorithm.name) : ofDocument document =
      if algorithm.acceptsSize (document.keySize.getD 0).toNat then
        if (document.request algorithm).commonName.isEmpty &&
            (document.request algorithm).names.isEmpty then .error .noSubject
        else .ok (document.request algorithm)
      else .error (.invalidKeySize algorithm (document.keySize.getD 0).toNat) := by
  simp only [ofDocument, keySizeOf_of_natural natural, known, Option.getD_some,
    KeyAlgorithm.validate_name, bind, Except.bind, RequestDocument.request,
    RequestDocument.entries]
  by_cases accepted : algorithm.acceptsSize (document.keySize.getD 0).toNat = true
  · rw [if_pos accepted, if_pos accepted]
    rfl
  · rw [if_neg accepted, if_neg accepted]

theorem ofDocument_of_passed (passed : ∀ check : RequestCheck, check.Passed document) :
    ∃ request, ofDocument document = .ok request ∧ request.IsOf document := by
  obtain ⟨algorithm, known⟩ := RequestCheck.passed_algorithm.mp (passed .algorithm)
  have named : ¬ ((document.request algorithm).commonName.isEmpty &&
      (document.request algorithm).names.isEmpty) = true := by
    rw [RequestDocument.isEmpty_request, not_not]
    exact passed .subject
  rw [ofDocument_of_natural (passed .size) known, if_pos (passed .policy algorithm known),
    if_neg named]
  exact ⟨_, rfl, RequestDocument.request_isOf (passed .size) known (passed .subject)⟩

theorem ofDocument_of_failed {check : RequestCheck}
    (passed : ∀ before ∈ check.earlier, before.Passed document)
    (failed : ¬ check.Passed document) :
    ∃ error, ofDocument document = .error error ∧ check.Reports document error := by
  cases check with
  | size =>
      obtain ⟨bits, given, negative⟩ : ∃ bits ∈ document.keySize, ¬ 0 ≤ bits := by
        simpa [RequestCheck.Passed] using failed
      refine ⟨.negativeKeySize bits, ?_, bits, given, rfl⟩
      rw [ofDocument, given, keySizeOf, if_pos (Int.not_le.mp negative)]
      rfl
  | algorithm =>
      have unknown : KeyAlgorithm.ofName? (document.keyAlgorithm.getD "") = none := by
        cases named : document.keyAlgorithm with
        | none => decide
        | some name =>
            rw [Option.getD_some, Option.eq_none_iff_forall_ne_some]
            intro algorithm found
            refine failed (RequestCheck.passed_algorithm.mpr ⟨algorithm, ?_⟩)
            rw [named, KeyAlgorithm.eq_name_of_ofName? found]
      refine ⟨_, ?_, rfl⟩
      rw [ofDocument, keySizeOf_of_natural (passed .size (by simp [RequestCheck.earlier]))]
      show (KeyAlgorithm.validate _ _ >>= _) = _
      rw [KeyAlgorithm.validate, KeyAlgorithm.ofName, unknown]
      rfl
  | policy =>
      obtain ⟨algorithm, known, refused⟩ : ∃ algorithm : KeyAlgorithm,
          document.keyAlgorithm = some algorithm.name ∧
            ¬ algorithm.acceptsSize (document.keySize.getD 0).toNat = true := by
        simpa [RequestCheck.Passed] using failed
      refine ⟨_, ?_, algorithm, known, rfl⟩
      rw [ofDocument_of_natural (passed .size (by simp [RequestCheck.earlier])) known,
        if_neg refused]
  | subject =>
      obtain ⟨algorithm, known⟩ := RequestCheck.passed_algorithm.mp
        (passed .algorithm (by simp [RequestCheck.earlier]))
      have accepted := passed .policy (by simp [RequestCheck.earlier]) algorithm known
      refine ⟨_, ?_, rfl⟩
      rw [ofDocument_of_natural (passed .size (by simp [RequestCheck.earlier])) known,
        if_pos accepted, if_pos ((RequestDocument.isEmpty_request algorithm).mpr failed)]

/-- Only documents that pass every check have a request. -/
theorem passed_of_ofDocument {request : CertificateRequest}
    (accepted : ofDocument document = .ok request) (check : RequestCheck) :
    check.Passed document := by
  revert check
  by_contra failed
  obtain ⟨check, passed, failed⟩ := RequestCheck.exists_first_failed failed
  obtain ⟨error, found, _⟩ := ofDocument_of_failed passed failed
  cases accepted.symm.trans found

theorem parse_of_read {octets : Octets} (read : RequestDocument.ofOctets? octets = some document) :
    parse octets = ofDocument document := by
  rw [parse, read]

end

end CertificateRequest

/-! ## Serial numbers in entries -/

/-- The name without its serial number. -/
def SubjectName.withoutSerial (name : SubjectName) : SubjectName :=
  { name with serialNumber := "" }

/-- The document without the serial numbers in its entries. -/
def RequestDocument.withoutSerials (document : RequestDocument) : RequestDocument :=
  { document with
    names := document.names.map (·.map fun entry => { entry with serialNumber := none }) }

namespace CertificateRequest

theorem subject_map_withoutSerial (request : CertificateRequest) :
    { request with names := request.names.map SubjectName.withoutSerial }.subject =
      request.subject := by
  simp only [subject, collect, List.map_map]
  rfl

theorem trimmed_names_withoutSerials (document : RequestDocument) :
    ((document.withoutSerials.names.getD []).map SubjectName.ofEntry).filter (!·.isEmpty) =
      (((document.names.getD []).map SubjectName.ofEntry).filter (!·.isEmpty)).map
        SubjectName.withoutSerial := by
  have entries : (document.withoutSerials.names.getD []).map SubjectName.ofEntry =
      ((document.names.getD []).map SubjectName.ofEntry).map SubjectName.withoutSerial := by
    cases names : document.names with
    | none => simp [RequestDocument.withoutSerials, names]
    | some entries =>
        simp only [RequestDocument.withoutSerials, names, Option.map_some, Option.getD_some,
          List.map_map]
        congr 1
  rw [entries, List.filter_map]
  rfl

/-- The serial numbers in entries make no difference to the subject, nor to an error. -/
theorem subject_withoutSerials (document : RequestDocument) :
    (ofDocument document.withoutSerials).map subject = (ofDocument document).map subject := by
  have keySize : document.withoutSerials.keySize = document.keySize := rfl
  have keyAlgorithm : document.withoutSerials.keyAlgorithm = document.keyAlgorithm := rfl
  have commonName : document.withoutSerials.commonName = document.commonName := rfl
  have hosts : document.withoutSerials.hosts = document.hosts := rfl
  have serialNumber : document.withoutSerials.serialNumber = document.serialNumber := rfl
  simp only [ofDocument, keySize, keyAlgorithm, commonName, hosts, serialNumber,
    trimmed_names_withoutSerials, List.isEmpty_map, Except.map_bind]
  refine congrArg (_ >>= ·) (funext fun size => congrArg (_ >>= ·) (funext fun algorithm => ?_))
  split
  · rfl
  · exact congrArg Except.ok (subject_map_withoutSerial { document.request algorithm with
      keySize := size })

/-- What becomes of a document that is read from octets.  It is refused for the first check that it
fails, or its request is given, and documents that differ only in the serial numbers of entries have
the same subject. -/
theorem parse_checks {octets : Octets} {document : RequestDocument}
    (read : RequestDocument.ofOctets? octets = some document) :
    ((∃ request, parse octets = .ok request) ↔ ∀ check : RequestCheck, check.Passed document) ∧
      (∀ request, parse octets = .ok request → request.IsOf document) ∧
      ((¬ ∀ check : RequestCheck, check.Passed document) →
        ∃ (check : RequestCheck) (error : Error),
          (∀ before ∈ check.earlier, before.Passed document) ∧ ¬ check.Passed document ∧
            parse octets = .error error ∧ check.Reports document error ∧
              error.kind = .validation) ∧
      ∀ otherOctets other, RequestDocument.ofOctets? otherOctets = some other →
        other.withoutSerials = document.withoutSerials →
          (parse otherOctets).map subject = (parse octets).map subject := by
  rw [parse_of_read read]
  refine ⟨⟨?_, ?_⟩, ?_, ?_, ?_⟩
  · rintro ⟨request, accepted⟩
    exact passed_of_ofDocument accepted
  · intro passed
    obtain ⟨request, accepted, _⟩ := ofDocument_of_passed passed
    exact ⟨request, accepted⟩
  · intro request accepted
    obtain ⟨found, same, isOf⟩ := ofDocument_of_passed (passed_of_ofDocument accepted)
    cases accepted.symm.trans same
    exact isOf
  · intro failed
    obtain ⟨check, passed, failed⟩ := RequestCheck.exists_first_failed failed
    obtain ⟨error, found, reports⟩ := ofDocument_of_failed passed failed
    exact ⟨check, error, passed, failed, found, reports, reports.kind⟩
  · intro otherOctets other otherRead same
    rw [parse_of_read otherRead, ← subject_withoutSerials other, same, subject_withoutSerials]

end CertificateRequest

/-- A request file with blank texts and no common name. -/
def blankTextsFile : Octets :=
  Text.utf8
    "keyAlgorithm: ecdsa\ncommonName: ' '\nnames:\n- OU: ' '\n  O: ' a '\n- serialNumber: b\n"

/-- The document in the file. -/
def blankTexts : RequestDocument :=
  { keyAlgorithm := some "ecdsa"
    commonName := some " "
    names := some [{ organizationalUnit := some " ", organization := some " a " },
      { serialNumber := some "b" }] }

/-- The request of the file is made. -/
theorem blankTexts_are_trimmed :
    ∃ request, CertificateRequest.parse blankTextsFile = .ok request ∧
      request.IsOf blankTexts := by
  have read : RequestDocument.ofOctets? blankTextsFile = some blankTexts := by decide +kernel
  obtain ⟨accepts, isOf, _, _⟩ := CertificateRequest.parse_checks read
  have passed : ∀ check : RequestCheck, check.Passed blankTexts := by
    intro check
    cases check with
    | size => exact nofun
    | algorithm => exact Or.inl rfl
    | policy => intro algorithm _; cases algorithm <;> decide
    | subject =>
        refine Or.inr ⟨_, List.mem_cons_self, .organization, by decide, " a ", rfl, ?_⟩
        intro blank
        cases blank 'a' (by decide)
  obtain ⟨request, accepted⟩ := accepts.mpr passed
  exact ⟨request, accepted, isOf request accepted⟩

end CertAuthority
