import CertAuthority.Issuance.Template
import CertAuthority.Proofs.Extension.Hosts
import CertAuthority.Proofs.Operation

/-!
# The extensions of a template

Every extension of a template is written or left out on its own account, and
each type of extension is written once.  So the first extension of a type in
the list is the one that was written for it, and reading it gives the value
back.
-/

namespace CertAuthority

open X509 (Extension)

/-- Extensions that carry a value of a type if it is wanted, and nothing else. -/
inductive Carries {α : Type} [ExtensionValue α] (value : α) (critical : Bool) :
    (wanted : Bool) → List Extension → Prop
  | absent : Carries value critical false []
  | present (octets : Octets) (written : ExtensionValue.encode value = .ok octets) :
      Carries value critical true [⟨ExtensionValue.oid α, critical, octets⟩]

namespace Carries

variable {α : Type} [ExtensionValue α] {value : α} {critical wanted : Bool}
  {extensions : List Extension}

theorem of_extensionIf
    (written : CertificateTemplate.extensionIf wanted value critical = .ok extensions) :
    Carries value critical wanted extensions := by
  cases wanted with
  | false =>
      obtain rfl : [] = extensions := Except.ok.inj written
      exact absent
  | true =>
      rcases Except.bind_eq_ok.mp written with ⟨extension, made, result⟩
      rcases Except.bind_eq_ok.mp made with ⟨octets, encoded, shape⟩
      rcases Except.ok.inj shape with rfl
      rcases Except.ok.inj result with rfl
      exact present octets encoded

theorem oid_eq (carries : Carries value critical wanted extensions) {extension : Extension}
    (member : extension ∈ extensions) : extension.oid = ExtensionValue.oid α := by
  cases carries with
  | absent => cases member
  | present octets written => rw [List.mem_singleton.mp member]

theorem critical_eq (carries : Carries value critical wanted extensions) {extension : Extension}
    (member : extension ∈ extensions) : extension.critical = critical := by
  cases carries with
  | absent => cases member
  | present octets written => rw [List.mem_singleton.mp member]

theorem oids_sublist (carries : Carries value critical wanted extensions) :
    (extensions.map (·.oid)).Sublist [ExtensionValue.oid α] := by
  cases carries with
  | absent => exact List.nil_sublist _
  | present octets written => exact List.Sublist.refl _

/-- The value that is found by its identifier is the one that was written. -/
theorem find?_read (carries : Carries value critical wanted extensions) {read : α}
    (readsBack : ExtensionValue.ReadsBack value read)
    (bound : ∀ extension, extensions.find? (·.oid = ExtensionValue.oid α) = some extension →
      extension.value.length ≤ Der.maxLength) :
    (match extensions.find? (·.oid = ExtensionValue.oid α) with
      | none => .ok none
      | some extension => (ExtensionValue.decode extension.value).map some) =
      (.ok (if wanted then some read else none) : Except Error (Option α)) := by
  cases carries with
  | absent => rfl
  | present octets written =>
      have decoded := readsBack octets written (bound _ (List.find?_cons_of_pos (by simp)))
      simp [decoded, Except.map]

end Carries

/-! ## Parts of a list -/

/-- A part with the identifier that all its extensions have. -/
def IsLabelled (part : Der.Oid × List Extension) : Prop :=
  ∀ extension ∈ part.2, extension.oid = part.1

theorem IsLabelled.find?_other {part : Der.Oid × List Extension} (labelled : IsLabelled part)
    {oid : Der.Oid} (other : part.1 ≠ oid) : part.2.find? (·.oid = oid) = none := by
  rw [List.find?_eq_none]
  intro extension member
  rw [labelled extension member]
  simpa using other

/-- If the identifiers are distinct, an extension is only looked for in the part of its own. -/
theorem find?_flatMap_of_mem {parts : List (Der.Oid × List Extension)}
    (distinct : (parts.map (·.1)).Nodup) (labelled : ∀ part ∈ parts, IsLabelled part)
    {oid : Der.Oid} {part : List Extension} (member : (oid, part) ∈ parts) :
    (parts.flatMap (·.2)).find? (·.oid = oid) = part.find? (·.oid = oid) := by
  induction parts with
  | nil => cases member
  | cons first others ih =>
      rw [List.map_cons, List.nodup_cons] at distinct
      rw [List.forall_mem_cons] at labelled
      rw [List.flatMap_cons, List.find?_append]
      rcases List.mem_cons.mp member with rfl | inOthers
      · have absent : (others.flatMap (·.2)).find? (·.oid = oid) = none := by
          rw [List.find?_flatMap, List.findSome?_eq_none_iff]
          intro other inOthers
          refine (labelled.2 other inOthers).find?_other fun same => distinct.1 ?_
          exact List.mem_map.mpr ⟨other, inOthers, same⟩
        rw [absent, Option.or_none]
      · have absent : first.2.find? (·.oid = oid) = none := by
          refine labelled.1.find?_other fun same => distinct.1 ?_
          rw [same]
          exact List.mem_map.mpr ⟨_, inOthers, rfl⟩
        rw [absent, Option.none_or, ih distinct.2 labelled.2 inOthers]

/-! ## Alternative names -/

namespace Hosts

/-- The extension of alternative names, if there are any hosts. -/
def alternativeNames (hosts : Hosts) : List Extension :=
  if hosts.isEmpty then []
  else [⟨oid, false, X509.GeneralName.encodeList hosts.generalNames⟩]

/-- There is an extension for hosts unless one of their names cannot be written. -/
theorem toExtensions_eq (hosts : Hosts) :
    hosts.toExtensions =
      match hosts.firstForeign? with
      | some name => .error (.notAscii name)
      | none => .ok hosts.alternativeNames := by
  unfold toExtensions alternativeNames
  split
  · rename_i empty
    rw [firstForeign?_of_isEmpty empty]
  · have made : Extension.ofValue hosts false =
        (encode hosts >>= fun octets => .ok ⟨oid, false, octets⟩) := rfl
    rw [made, encode_eq]
    cases hosts.firstForeign? <;> rfl

end Hosts

/-! ## The list of a template -/

namespace CertificateTemplate

/-- The parts of the list of extensions of a template, type by type. -/
structure ExtensionList (template : CertificateTemplate) (authorityKeyId : Option Octets)
    (extensions : List Extension) where
  keyUsage : List Extension
  purposes : List Extension
  constraints : List Extension
  subjectKeyId : List Extension
  authorityKeyIds : List Extension
  hosts : List Extension
  keyUsage_carries :
    Carries template.usage.keyUsage true (!template.usage.keyUsage.isEmpty) keyUsage
  purposes_carries : Carries (ExtendedKeyUsage.mk template.usage.purposes) false
    (!template.usage.purposes.isEmpty) purposes
  constraints_carries : Carries (BasicConstraints.mk template.isCa none) true
    template.statesConstraints constraints
  subjectKeyId_carries : Carries (SubjectKeyIdentifier.mk template.subjectKeyId) false
    template.isCa subjectKeyId
  authorityKeyId_carries : Carries (AuthorityKeyIdentifier.mk (authorityKeyId.getD [])) false
    authorityKeyId.isSome authorityKeyIds
  hosts_carries : Carries template.hosts false (!template.hosts.isEmpty) hosts
  shape : extensions =
    keyUsage ++ purposes ++ constraints ++ subjectKeyId ++ authorityKeyIds ++ hosts

theorem toExtensions_carries {hosts : Hosts} {extensions : List Extension}
    (written : hosts.toExtensions = .ok extensions) :
    Carries hosts false (!hosts.isEmpty) extensions := by
  apply Carries.of_extensionIf
  unfold Hosts.toExtensions at written
  unfold extensionIf
  split at written
  · rename_i empty
    rw [empty]
    exact written
  · rename_i some
    rw [Bool.not_eq_true] at some
    rw [some]
    exact written

theorem extensions_eq_ok {template : CertificateTemplate} {authorityKeyId : Option Octets}
    {extensions : List Extension}
    (written : template.extensions authorityKeyId = .ok extensions) :
    Nonempty (ExtensionList template authorityKeyId extensions) := by
  rcases Except.bind_eq_ok.mp written with ⟨keyUsage, keyUsageFound, written⟩
  rcases Except.bind_eq_ok.mp written with ⟨purposes, purposesFound, written⟩
  rcases Except.bind_eq_ok.mp written with ⟨constraints, constraintsFound, written⟩
  rcases Except.bind_eq_ok.mp written with ⟨subjectKeyId, subjectKeyIdFound, written⟩
  rcases Except.bind_eq_ok.mp written with ⟨authorityKeyIds, authorityKeyIdFound, written⟩
  rcases Except.bind_eq_ok.mp written with ⟨hosts, hostsFound, written⟩
  exact ⟨⟨keyUsage, purposes, constraints, subjectKeyId, authorityKeyIds, hosts,
    Carries.of_extensionIf keyUsageFound, Carries.of_extensionIf purposesFound,
    Carries.of_extensionIf constraintsFound, Carries.of_extensionIf subjectKeyIdFound,
    Carries.of_extensionIf authorityKeyIdFound, toExtensions_carries hostsFound,
    (Except.ok.inj written).symm⟩⟩

namespace ExtensionList

variable {template : CertificateTemplate} {authorityKeyId : Option Octets}
  {extensions : List Extension}

/-- The identifiers of the types, in the order in which they are written. -/
def oids : List Der.Oid :=
  [KeyUsage.oid, ExtendedKeyUsage.oid, BasicConstraints.oid, SubjectKeyIdentifier.oid,
    AuthorityKeyIdentifier.oid, Hosts.oid]

theorem map_oid_sublist (list : ExtensionList template authorityKeyId extensions) :
    (extensions.map (·.oid)).Sublist oids := by
  rw [list.shape]
  simp only [List.map_append]
  exact ((((list.keyUsage_carries.oids_sublist.append list.purposes_carries.oids_sublist).append
    list.constraints_carries.oids_sublist).append list.subjectKeyId_carries.oids_sublist).append
      list.authorityKeyId_carries.oids_sublist).append list.hosts_carries.oids_sublist

theorem nodup (list : ExtensionList template authorityKeyId extensions) :
    (extensions.map (·.oid)).Nodup := by
  have distinct : oids.Nodup := by decide
  exact distinct.sublist list.map_oid_sublist

theorem oid_readable (list : ExtensionList template authorityKeyId extensions)
    {extension : Extension} (member : extension ∈ extensions) :
    extension.oid.isReadable = true := by
  have every : ∀ oid ∈ oids, oid.isReadable = true := by decide
  exact every _ (list.map_oid_sublist.subset (List.mem_map_of_mem member))

/-- Uses of the key and constraints are critical, the other extensions are not. -/
theorem critical_iff (list : ExtensionList template authorityKeyId extensions)
    {extension : Extension} (member : extension ∈ extensions) :
    extension.critical = true ↔
      extension.oid = KeyUsage.oid ∨ extension.oid = BasicConstraints.oid := by
  rw [list.shape] at member
  simp only [List.mem_append] at member
  have known : ∀ {critical : Bool} {oid : Der.Oid}, extension.critical = critical →
      extension.oid = oid → (critical = true ↔ oid = KeyUsage.oid ∨ oid = BasicConstraints.oid) →
      (extension.critical = true ↔
        extension.oid = KeyUsage.oid ∨ extension.oid = BasicConstraints.oid) := by
    intro critical oid sameCritical sameOid fact
    rw [sameCritical, sameOid]
    exact fact
  rcases member with ((((inside | inside) | inside) | inside) | inside) | inside
  · exact known (list.keyUsage_carries.critical_eq inside)
      (list.keyUsage_carries.oid_eq inside) (by decide)
  · exact known (list.purposes_carries.critical_eq inside)
      (list.purposes_carries.oid_eq inside) (by decide)
  · exact known (list.constraints_carries.critical_eq inside)
      (list.constraints_carries.oid_eq inside) (by decide)
  · exact known (list.subjectKeyId_carries.critical_eq inside)
      (list.subjectKeyId_carries.oid_eq inside) (by decide)
  · exact known (list.authorityKeyId_carries.critical_eq inside)
      (list.authorityKeyId_carries.oid_eq inside) (by decide)
  · exact known (list.hosts_carries.critical_eq inside)
      (list.hosts_carries.oid_eq inside) (by decide)

/-- The parts, with the identifiers of their types. -/
def parts (list : ExtensionList template authorityKeyId extensions) :
    List (Der.Oid × List Extension) :=
  [(KeyUsage.oid, list.keyUsage), (ExtendedKeyUsage.oid, list.purposes),
    (BasicConstraints.oid, list.constraints), (SubjectKeyIdentifier.oid, list.subjectKeyId),
    (AuthorityKeyIdentifier.oid, list.authorityKeyIds), (Hosts.oid, list.hosts)]

theorem eq_flatMap_parts (list : ExtensionList template authorityKeyId extensions) :
    extensions = list.parts.flatMap (·.2) :=
  list.shape.trans (by simp [parts])

theorem isLabelled_parts (list : ExtensionList template authorityKeyId extensions) :
    ∀ part ∈ list.parts, IsLabelled part := by
  simp only [parts, List.forall_mem_cons]
  exact ⟨fun _ => list.keyUsage_carries.oid_eq, fun _ => list.purposes_carries.oid_eq,
    fun _ => list.constraints_carries.oid_eq, fun _ => list.subjectKeyId_carries.oid_eq,
    fun _ => list.authorityKeyId_carries.oid_eq, fun _ => list.hosts_carries.oid_eq,
    List.forall_mem_nil _⟩

/-- The first extension with the identifier of a type is that of the part of the type. -/
theorem find?_part (list : ExtensionList template authorityKeyId extensions) {oid : Der.Oid}
    {part : List Extension} (member : (oid, part) ∈ list.parts) :
    extensions.find? (·.oid = oid) = part.find? (·.oid = oid) := by
  have distinct : (list.parts.map (·.1)).Nodup := show oids.Nodup by decide
  have found := find?_flatMap_of_mem distinct list.isLabelled_parts member
  rwa [← list.eq_flatMap_parts] at found

end ExtensionList

theorem exists_extensionIf {α : Type} [ExtensionValue α] (value : α) {octets : Octets}
    (written : ExtensionValue.encode value = .ok octets) (wanted critical : Bool) :
    ∃ part, extensionIf wanted value critical = .ok part ∧
      ∀ extension ∈ part, extension.oid = ExtensionValue.oid α := by
  obtain ⟨part, found⟩ : ∃ part, extensionIf wanted value critical = .ok part := by
    cases wanted with
    | false => exact ⟨[], rfl⟩
    | true =>
        refine ⟨[⟨ExtensionValue.oid α, critical, octets⟩], ?_⟩
        rw [extensionIf, if_pos rfl, Extension.ofValue, written]
        rfl
  exact ⟨part, found, fun _ => (Carries.of_extensionIf found).oid_eq⟩

/-- All extensions but that of the hosts can always be written, and are of other types. -/
theorem exists_extensions_eq (template : CertificateTemplate) (authorityKeyId : Option Octets) :
    ∃ others, (∀ extension ∈ others, extension.oid ≠ Hosts.oid) ∧
      template.extensions authorityKeyId = template.hosts.toExtensions.map (others ++ ·) := by
  obtain ⟨keyUsage, keyUsageFound, keyUsageOid⟩ := exists_extensionIf template.usage.keyUsage rfl
    (!template.usage.keyUsage.isEmpty) true
  obtain ⟨purposes, purposesFound, purposesOid⟩ := exists_extensionIf
    (ExtendedKeyUsage.mk template.usage.purposes) rfl (!template.usage.purposes.isEmpty) false
  obtain ⟨constraints, constraintsFound, constraintsOid⟩ := exists_extensionIf
    (BasicConstraints.mk template.isCa none) rfl template.statesConstraints true
  obtain ⟨subjectKeyId, subjectKeyIdFound, subjectKeyIdOid⟩ := exists_extensionIf
    (SubjectKeyIdentifier.mk template.subjectKeyId) rfl template.isCa false
  obtain ⟨authorityKeyIds, authorityKeyIdFound, authorityKeyIdOid⟩ := exists_extensionIf
    (AuthorityKeyIdentifier.mk (authorityKeyId.getD [])) rfl authorityKeyId.isSome false
  refine ⟨keyUsage ++ purposes ++ constraints ++ subjectKeyId ++ authorityKeyIds, ?_, ?_⟩
  · intro extension member
    simp only [List.mem_append] at member
    rcases member with (((member | member) | member) | member) | member
    · rw [keyUsageOid extension member]
      decide
    · rw [purposesOid extension member]
      decide
    · rw [constraintsOid extension member]
      decide
    · rw [subjectKeyIdOid extension member]
      decide
    · rw [authorityKeyIdOid extension member]
      decide
  · rw [extensions]
    simp only [keyUsageFound, purposesFound, constraintsFound, subjectKeyIdFound,
      authorityKeyIdFound]
    cases template.hosts.toExtensions <;> rfl

end CertificateTemplate

end CertAuthority
