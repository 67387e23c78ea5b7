import CertAuthority.Proofs.DistinguishedName
import CertAuthority.Proofs.Text.Blank
import CertAuthority.Request.Basic

/-!
# Subjects of request documents

An attribute of the subject has the texts that a document gives for it, without
those that are blank, trimmed and in the order of the document.  A name that is
dropped has none of them, so nothing is lost with it.
-/

namespace CertAuthority

/-- What an entry says of an attribute; its serial number is none of the subject. -/
def NameEntry.given (entry : NameEntry) : NameField → Option String
  | .country => entry.country
  | .province => entry.province
  | .locality => entry.locality
  | .organization => entry.organization
  | .organizationalUnit => entry.organizationalUnit
  | .commonName | .serialNumber => none

/-- Whether an entry says anything of the subject. -/
def NameEntry.Names (entry : NameEntry) : Prop :=
  ∃ field ∈ NameField.all, ∃ text ∈ entry.given field, ¬ Text.IsBlank text

instance : DecidablePred NameEntry.Names := fun entry =>
  inferInstanceAs
    (Decidable (∃ field ∈ NameField.all, ∃ text ∈ entry.given field, ¬ Text.IsBlank text))

namespace RequestDocument

/-- The entries of the names, none if they are missing. -/
def entries (document : RequestDocument) : List NameEntry :=
  document.names.getD []

/-- The texts that are given for an attribute of the subject, in order. -/
def texts (document : RequestDocument) : NameField → List String
  | .commonName => document.commonName.toList
  | .serialNumber => document.serialNumber.toList
  | field => document.entries.filterMap (·.given field)

/-- The texts without the blank ones, trimmed. -/
def values (document : RequestDocument) (field : NameField) : List String :=
  ((document.texts field).filter fun text => ¬ Text.IsBlank text).map Text.trim

/-- Whether a document gives a subject. -/
def NamesSubject (document : RequestDocument) : Prop :=
  (∃ text ∈ document.commonName, ¬ Text.IsBlank text) ∨ ∃ entry ∈ document.entries, entry.Names

theorem mem_texts_of_given {document : RequestDocument} {entry : NameEntry}
    (member : entry ∈ document.entries) {field : NameField} {text : String}
    (given : text ∈ entry.given field) : text ∈ document.texts field := by
  have found : text ∈ document.entries.filterMap (·.given field) :=
    List.mem_filterMap.mpr ⟨entry, member, given⟩
  cases field with
  | commonName => cases given
  | serialNumber => cases given
  | _ => exact found

theorem values_ne_nil {document : RequestDocument} {field : NameField} {text : String}
    (member : text ∈ document.texts field) (written : ¬ Text.IsBlank text) :
    document.values field ≠ [] := by
  have kept : text ∈ (document.texts field).filter fun text => ¬ Text.IsBlank text :=
    List.mem_filter.mpr ⟨member, decide_eq_true written⟩
  exact List.ne_nil_of_mem (List.mem_map_of_mem kept)

theorem NamesSubject.exists_values_ne_nil {document : RequestDocument}
    (names : document.NamesSubject) : ∃ field, document.values field ≠ [] := by
  rcases names with ⟨text, given, written⟩ | ⟨entry, member, field, _, text, given, written⟩
  · exact ⟨.commonName, values_ne_nil (Option.mem_toList.mpr given) written⟩
  · exact ⟨field, values_ne_nil (mem_texts_of_given member given) written⟩

end RequestDocument

/-! ## Trimmed names -/

namespace SubjectName

theorem trimmed_eq_empty {text : Option String} :
    trimmed text = "" ↔ ∀ given ∈ text, Text.IsBlank given := by
  rw [trimmed, Text.trim_eq_empty]
  cases text with
  | none => simp [Text.IsBlank]
  | some given => simp

theorem isEmpty_ofEntry {entry : NameEntry} :
    (ofEntry entry).isEmpty = true ↔ ¬ entry.Names := by
  simp [isEmpty, ofEntry, trimmed_eq_empty, NameEntry.Names, NameField.all, NameEntry.given,
    and_assoc]

/-- What is left of trimmed texts are the texts that are there and not blank. -/
theorem filter_map_trimmed {α : Type} (given : α → Option String) (items : List α) :
    (items.map fun item => trimmed (given item)).filter (!·.isEmpty) =
      ((items.filterMap given).filter fun text => ¬ Text.IsBlank text).map Text.trim := by
  induction items with
  | nil => rfl
  | cons item items ih =>
      rw [List.map_cons]
      cases written : given item with
      | none =>
          have nothing : trimmed none = "" := trimmed_eq_empty.mpr nofun
          rw [List.filter_cons_of_neg (by simp [nothing]), List.filterMap_cons_none written, ih]
      | some text =>
          have empty : trimmed (some text) = "" ↔ Text.IsBlank text := Text.trim_eq_empty
          rw [List.filterMap_cons_some written]
          by_cases blank : Text.IsBlank text
          · rw [List.filter_cons_of_neg (by simp [empty, blank]),
              List.filter_cons_of_neg (by simp [blank]), ih]
          · rw [List.filter_cons_of_pos (by simp [empty, blank]),
              List.filter_cons_of_pos (by simp [blank]), ih, List.map_cons]
            rfl

/-- Nothing is lost with the names that are dropped. -/
theorem filter_map_filter {value : SubjectName → String}
    (empty : ∀ name, isEmpty name = true → (value name).isEmpty = true)
    (names : List SubjectName) :
    ((names.filter (!·.isEmpty)).map value).filter (!·.isEmpty) =
      (names.map value).filter (!·.isEmpty) := by
  rw [List.filter_map, List.filter_map, List.filter_filter]
  congr 1
  apply List.filter_congr
  intro name _
  cases dropped : name.isEmpty with
  | false => simp
  | true => simp [empty name dropped]

end SubjectName

/-! ## The subject -/

theorem DistinguishedName.single_trimmed (text : Option String) :
    single (SubjectName.trimmed text) =
      (text.toList.filter fun text => ¬ Text.IsBlank text).map Text.trim := by
  have kept : single (SubjectName.trimmed text) =
      [SubjectName.trimmed text].filter (!·.isEmpty) := by
    by_cases empty : SubjectName.trimmed text = ""
    · rw [single, if_pos empty, List.filter_cons_of_neg (by simp [empty]), List.filter_nil]
    · rw [single, if_neg empty, List.filter_cons_of_pos (by simp [empty]), List.filter_nil]
  have listed : [text].filterMap id = text.toList := by cases text <;> rfl
  rw [kept, ← listed]
  exact SubjectName.filter_map_trimmed id [text]

namespace CertificateRequest

section

variable {request : CertificateRequest} {document : RequestDocument}

theorem collect_eq
    (names : request.names = (document.entries.map SubjectName.ofEntry).filter (!·.isEmpty))
    {value : SubjectName → String} {given : NameEntry → Option String}
    (trims : ∀ entry, value (SubjectName.ofEntry entry) = SubjectName.trimmed (given entry))
    (empty : ∀ name, SubjectName.isEmpty name = true → (value name).isEmpty = true) :
    request.collect value =
      ((document.entries.filterMap given).filter fun text => ¬ Text.IsBlank text).map
        Text.trim := by
  rw [collect, names, SubjectName.filter_map_filter empty, List.map_map,
    ← SubjectName.filter_map_trimmed]
  simp only [Function.comp_def, trims]

/-- The values of the subject are those of the document, attribute by attribute. -/
theorem values_subject
    (names : request.names = (document.entries.map SubjectName.ofEntry).filter (!·.isEmpty))
    (commonName : request.commonName = SubjectName.trimmed document.commonName)
    (serialNumber : request.serialNumber = SubjectName.trimmed document.serialNumber)
    (field : NameField) : request.subject.values field = document.values field := by
  cases field with
  | commonName =>
      have single := DistinguishedName.single_trimmed document.commonName
      rwa [← commonName] at single
  | serialNumber =>
      have single := DistinguishedName.single_trimmed document.serialNumber
      rwa [← serialNumber] at single
  | _ =>
      refine collect_eq names (fun _ => rfl) fun name empty => ?_
      simp only [SubjectName.isEmpty, Bool.and_eq_true] at empty
      simp only [empty]

theorem toName_subject
    (same : ∀ field, request.subject.values field = document.values field) :
    request.subject.toName = NameField.all.flatMap fun field =>
      (document.values field).map fun value =>
        Der.SetOf.singleton (DistinguishedName.attributeOf field value) := by
  simp only [DistinguishedName.toName, same]
  rfl

end

end CertificateRequest

end CertAuthority
