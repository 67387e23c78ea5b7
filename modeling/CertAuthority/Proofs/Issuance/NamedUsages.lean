import CertAuthority.Proofs.Issuance.Lifetime

/-!
# Usages by name

Each use that a word stands for is in the set of uses, and each purpose that a
word stands for is in the list of purposes, as often as it is named
(`Usage.IsNamedBy`).  So lists of words can be looked up one after the other,
and the order and the number of the words do not matter for the uses.

Words are refused exactly if all of them are unknown.  The extensions of a
template whose usage was resolved therefore say at least one thing that the
certificate is for (`Usage.resolve_says_named`).
-/

namespace CertAuthority

open X509 (Extension)

/-- There is an extension of a type in a list. -/
def HasExtension (oid : Der.Oid) (extensions : List Extension) : Prop :=
  ∃ extension ∈ extensions, extension.oid = oid

instance (oid : Der.Oid) (extensions : List Extension) : Decidable (HasExtension oid extensions) :=
  inferInstanceAs (Decidable (∃ extension ∈ extensions, _))

theorem Carries.hasExtension_iff {α : Type} [ExtensionValue α] {value : α}
    {critical wanted : Bool} {extensions : List Extension}
    (carries : Carries value critical wanted extensions) :
    HasExtension (ExtensionValue.oid α) extensions ↔ wanted = true := by
  cases carries with
  | absent => simp [HasExtension]
  | present octets written => simp [HasExtension]

theorem hasExtension_iff_find? {oid : Der.Oid} {extensions : List Extension} :
    HasExtension oid extensions ↔ (extensions.find? (·.oid = oid)).isSome = true := by
  simp [HasExtension, List.find?_isSome]

namespace CertificateTemplate.ExtensionList

variable {template : CertificateTemplate} {authorityKeyId : Option Octets}
  {extensions : List Extension}

/-- There is an extension of a type exactly if there is one in the part of the type. -/
theorem hasExtension_iff_part (list : ExtensionList template authorityKeyId extensions)
    {oid : Der.Oid} {part : List Extension} (member : (oid, part) ∈ list.parts) :
    HasExtension oid extensions ↔ HasExtension oid part := by
  rw [hasExtension_iff_find?, hasExtension_iff_find?, list.find?_part member]

theorem hasExtension_keyUsage (list : ExtensionList template authorityKeyId extensions) :
    HasExtension KeyUsage.oid extensions ↔ template.usage.keyUsage.isEmpty = false := by
  have inPart : HasExtension KeyUsage.oid list.keyUsage ↔ _ :=
    list.keyUsage_carries.hasExtension_iff
  have member : (KeyUsage.oid, list.keyUsage) ∈ list.parts := List.mem_cons_self
  rw [list.hasExtension_iff_part member, inPart, Bool.not_eq_true']

theorem hasExtension_purposes (list : ExtensionList template authorityKeyId extensions) :
    HasExtension ExtendedKeyUsage.oid extensions ↔ template.usage.purposes.isEmpty = false := by
  have inPart : HasExtension ExtendedKeyUsage.oid list.purposes ↔ _ :=
    list.purposes_carries.hasExtension_iff
  have member : (ExtendedKeyUsage.oid, list.purposes) ∈ list.parts :=
    List.mem_cons_of_mem _ List.mem_cons_self
  rw [list.hasExtension_iff_part member, inPart, Bool.not_eq_true']

end CertificateTemplate.ExtensionList

namespace CertificateTemplate

/-- A template for resolved usages and no hosts that lasts until a second before the end of 9999. -/
def buildLastHostless (usage : Usage) : Operation CertificateTemplate :=
  buildWith hostlessRequest (Key.ofPair (.rsa Rsa.usualKey) []) ⟨9000000000⟩ usage false lastNow

/-- The template is built, and all its extensions can be written. -/
theorem exists_buildLastHostless (usage : Usage) (environment : Environment) :
    ∃ template after extensions,
      buildLastHostless usage environment = .ok template after ∧
        template.extensions none = .ok extensions := by
  obtain ⟨validity, accepted⟩ : ∃ validity, validityFrom lastNow ⟨9000000000⟩ = .ok validity :=
    ⟨⟨⟨253402300490000000000, 0, by decide⟩, ⟨253402300799000000000, 0, by decide⟩⟩, by decide⟩
  have hostless : (Hosts.classify hostlessRequest.hosts).toExtensions = .ok [] := rfl
  rcases exists_extensions_eq _ none with ⟨others, -, written⟩
  exact ⟨_, _, _, buildWith_of_validityFrom accepted _ _ _ _ _,
    written.trans (congrArg (Except.map (others ++ ·)) hostless)⟩

end CertificateTemplate

namespace Usage

/-- The uses that words stand for, and the purposes in the order of the words. -/
structure IsNamedBy (usage : Usage) (names : List String) : Prop where
  uses : ∀ use, usage.keyUsage.contains use = true ↔ ∃ name ∈ names, (name, use) ∈ useNames
  purposes : usage.purposes = names.filterMap fun name => purposeNames.lookup name

variable {usage : Usage} {names : List String}

theorem isNamedBy_iff : usage.IsNamedBy names ↔ usage = ofNames names := by
  constructor
  · intro named
    have uses : usage.keyUsage = (ofNames names).keyUsage :=
      KeyUsage.eq_of_contains fun use => (named.uses use).trans contains_ofNames.symm
    rw [mk.injEq]
    exact ⟨uses, named.purposes.trans (purposes_ofNames names).symm⟩
  · rintro rfl
    exact ⟨fun _ => contains_ofNames, purposes_ofNames names⟩

theorem IsNamedBy.uses_isEmpty (named : usage.IsNamedBy names) :
    usage.keyUsage.isEmpty = false ↔ ∃ name ∈ names, name ∈ useNames.map Prod.fst := by
  rw [isNamedBy_iff.mp named]
  exact isEmpty_keyUsage_ofNames

theorem IsNamedBy.purposes_isEmpty (named : usage.IsNamedBy names) :
    usage.purposes.isEmpty = false ↔ ∃ name ∈ names, name ∈ purposeNames.map Prod.fst := by
  rw [isNamedBy_iff.mp named]
  exact isEmpty_purposes_ofNames

/-- The reports of the unknown words, one for each time that one is named. -/
theorem lookup_eq_reporting (names : List String) (environment : Environment) :
    ∃ usage, usage.IsNamedBy names ∧
      lookup names environment = .ok usage
        (environment.reporting ((names.filter fun name => IsUnknown name).map .unknownUsage)) := by
  refine ⟨ofNames names, isNamedBy_iff.mpr rfl, ?_⟩
  rw [lookup_eq, unknownEvents_eq]

/-- Two lists of words are looked up one after the other. -/
theorem lookup_append (names others : List String) :
    lookup (names ++ others) = do
      let first ← lookup names
      let second ← lookup others
      return first.combine second := by
  funext environment
  rw [Operation.bind_of_ok (lookup_eq names environment), Operation.bind_of_ok (lookup_eq others _),
    lookup_eq, ofNames_append, unknownEvents_append, Environment.reporting_reporting]
  rfl

theorem IsNamedBy.uses_eq {other : Usage} {others : List String} (named : usage.IsNamedBy names)
    (otherNamed : other.IsNamedBy others) (same : ∀ name, name ∈ names ↔ name ∈ others) :
    usage.keyUsage = other.keyUsage := by
  rw [isNamedBy_iff.mp named, isNamedBy_iff.mp otherNamed, keyUsage_ofNames_congr same]

/-- Extensions say that there are uses, or purposes, exactly if words for them are named. -/
structure AreNamedBy (extensions : List Extension) (names : List String) : Prop where
  uses : HasExtension KeyUsage.oid extensions ↔ ∃ name ∈ names, name ∈ useNames.map Prod.fst
  purposes : HasExtension ExtendedKeyUsage.oid extensions ↔
    ∃ name ∈ names, name ∈ purposeNames.map Prod.fst

theorem IsNamedBy.extensions (named : usage.IsNamedBy names) {template : CertificateTemplate}
    (built : template.usage = usage) {authorityKeyId : Option Octets} {extensions : List Extension}
    (written : template.extensions authorityKeyId = .ok extensions) :
    AreNamedBy extensions names := by
  rcases CertificateTemplate.extensions_eq_ok written with ⟨list⟩
  refine ⟨?_, ?_⟩
  · rw [list.hasExtension_keyUsage, built]
    exact named.uses_isEmpty
  · rw [list.hasExtension_purposes, built]
    exact named.purposes_isEmpty

theorem AreNamedBy.of_known {extensions : List Extension} (named : AreNamedBy extensions names)
    (known : ∃ name ∈ names, ¬ IsUnknown name) :
    HasExtension KeyUsage.oid extensions ∨ HasExtension ExtendedKeyUsage.oid extensions := by
  rcases known with ⟨name, member, known⟩
  rw [IsUnknown, not_and_or, not_not, not_not] at known
  rw [named.uses, named.purposes]
  exact known.imp (fun use => ⟨name, member, use⟩) fun purpose => ⟨name, member, purpose⟩

/-- Words that are all unknown are reported, every one of them, and refused. -/
theorem resolve_eq_error_iff_reporting {environment after : Environment} {error : Error} :
    resolve names environment = .error error after ↔
      (error = .noUsage ∧ after = environment.reporting (names.map .unknownUsage)) ∧
        ∀ name ∈ names, IsUnknown name := by
  rw [resolve_eq_error_iff]
  refine and_congr_left fun unknown => ?_
  have every : names.filter (fun name => IsUnknown name) = names :=
    List.filter_eq_self.mpr fun name member => decide_eq_true (unknown name member)
  rw [unknownEvents_eq, every]

/-- Words are looked up as the uses they stand for, the purposes they stand for in their order, and
a report for each time that an unknown one is named.  Lists of words are looked up one after the
other, and which uses are found depends on nothing but which words there are.  Words are refused
exactly if all of them are unknown, so that the extensions of a template for resolved words say what
the certificate is for. -/
theorem resolve_says_named (names others : List String) (environment : Environment) :
    (∃ usage : Usage, usage.IsNamedBy names ∧
        lookup names environment = .ok usage (environment.reporting
          ((names.filter fun name => IsUnknown name).map .unknownUsage))) ∧
      (lookup (names ++ others) = do
        let first ← lookup names
        let second ← lookup others
        return first.combine second) ∧
      ((∀ name, name ∈ names ↔ name ∈ others) →
        ∀ usage other : Usage, usage.IsNamedBy names → other.IsNamedBy others →
          usage.keyUsage = other.keyUsage) ∧
      (∀ error after, resolve names environment = .error error after ↔
        (error = .noUsage ∧ after = environment.reporting (names.map .unknownUsage)) ∧
          ∀ name ∈ names, IsUnknown name) ∧
      (Error.noUsage.message = "Invalid input: no key usage(s) specified" ∧
        ∀ name, (Event.unknownUsage name).message = "ignoring unrecognized usage") ∧
      ∀ usage after, resolve names environment = .ok usage after →
        lookup names environment = .ok usage after ∧
          ∀ request key lifetime isCa now start template stop,
            CertificateTemplate.buildWith request key lifetime usage isCa now start =
                .ok template stop →
              ∀ authorityKeyId extensions,
                template.extensions authorityKeyId = .ok extensions →
                  AreNamedBy extensions names ∧
                    (HasExtension KeyUsage.oid extensions ∨
                      HasExtension ExtendedKeyUsage.oid extensions) := by
  refine ⟨lookup_eq_reporting names environment, lookup_append names others,
    fun same usage other named otherNamed => named.uses_eq otherNamed same,
    fun error after => resolve_eq_error_iff_reporting, ⟨by decide, fun _ => rfl⟩,
    fun usage after resolved => ?_⟩
  rcases resolve_eq_ok_iff.mp resolved with ⟨⟨rfl, rfl⟩, known⟩
  refine ⟨lookup_eq names environment, ?_⟩
  intro request key lifetime isCa now start template stop built authorityKeyId extensions written
  have named : AreNamedBy extensions names :=
    (isNamedBy_iff.mpr rfl).extensions (CertificateTemplate.buildWith_eq_ok built).usage written
  exact ⟨named, named.of_known known⟩

/-- A purpose under both of its names, an unknown word and a use. -/
def mixedNames : List String := ["email protection", "sever auth", "signing", "s/mime"]

/-- What these words stand for. -/
def mixedUsage : Usage :=
  ⟨KeyUsage.ofList [.digitalSignature], [.emailProtection, .emailProtection]⟩

/-- The unknown word is reported and the purpose is kept twice, and naming everything once more
changes nothing about the uses. -/
theorem resolve_says_named_mixedNames :
    (∃ between template after extensions,
      between = exampleEnvironment.reporting [.unknownUsage "sever auth"] ∧
        resolve mixedNames exampleEnvironment = .ok mixedUsage between ∧
          CertificateTemplate.buildLastHostless mixedUsage between = .ok template after ∧
            template.extensions Option.none = .ok extensions ∧
              HasExtension KeyUsage.oid extensions ∧
                HasExtension ExtendedKeyUsage.oid extensions) ∧
      (ofNames mixedNames).keyUsage = (ofNames (mixedNames ++ mixedNames.reverse)).keyUsage := by
  rcases resolve_says_named mixedNames (mixedNames ++ mixedNames.reverse) exampleEnvironment with
    ⟨-, -, same, -, -, templated⟩
  constructor
  · have reported : unknownEvents mixedNames = [.unknownUsage "sever auth"] := by decide
    have resolved : resolve mixedNames exampleEnvironment =
        .ok mixedUsage (exampleEnvironment.reporting [.unknownUsage "sever auth"]) := by
      rw [resolve_eq_ok_iff, reported]
      exact ⟨⟨by decide, rfl⟩, by decide⟩
    rcases CertificateTemplate.exists_buildLastHostless mixedUsage
      (exampleEnvironment.reporting [.unknownUsage "sever auth"]) with
      ⟨template, after, extensions, built, written⟩
    have named := ((templated _ _ resolved).2 _ _ _ _ _ _ _ _ built _ _ written).1
    refine ⟨_, template, after, extensions, rfl, resolved, built, written, ?_, ?_⟩
    · exact named.uses.mpr (by decide)
    · exact named.purposes.mpr (by decide)
  · refine same (fun name => ?_) _ _ (isNamedBy_iff.mpr rfl) (isNamedBy_iff.mpr rfl)
    rw [List.mem_append, List.mem_reverse, or_self]

end Usage

end CertAuthority
