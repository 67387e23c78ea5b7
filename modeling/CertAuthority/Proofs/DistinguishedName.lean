import CertAuthority.DistinguishedName

/-!
# Finding attributes again

A distinguished name that became the name of a certificate is found again in
it: `ofName` undoes `toName`.
-/

namespace CertAuthority

theorem decodeText?_encodeText (text : String) : decodeText? (encodeText text) = some text := by
  have known : [Der.Tag.printableString, Der.Tag.utf8String, Der.Tag.ia5String,
      Der.Tag.teletexString].contains (encodeText text).tag = true := by
    unfold encodeText
    dsimp only
    split <;> decide
  rw [decodeText?, if_pos known]
  exact Text.ofUtf8?_utf8 text

theorem NameField.ofOid?_oid (field : NameField) : ofOid? field.oid = some field := by
  cases field <;> decide

namespace DistinguishedName

/-- The attribute with a value of a field. -/
def attributeOf (field : NameField) (value : String) : X509.NameAttribute :=
  ⟨field.oid, encodeText value⟩

theorem addAttribute_attributeOf (name : DistinguishedName) (field : NameField) (value : String) :
    name.addAttribute (attributeOf field value) = name.add field value := by
  simp only [addAttribute, attributeOf, NameField.ofOid?_oid, decodeText?_encodeText]

theorem foldl_attributeOf (name : DistinguishedName) (field : NameField) (values : List String) :
    (values.map (attributeOf field)).foldl addAttribute name =
      values.foldl (fun name value => name.add field value) name := by
  rw [List.foldl_map]
  simp only [addAttribute_attributeOf]

/-- Values are added one after the other behind those that an attribute has. -/
theorem foldl_add (field : NameField) (get : DistinguishedName → List String)
    (set : DistinguishedName → List String → DistinguishedName)
    (adds : ∀ name value, name.add field value = set name (get name ++ [value]))
    (get_set : ∀ name values, get (set name values) = values)
    (set_set : ∀ name first second, set (set name first) second = set name second)
    (set_get : ∀ name, set name (get name) = name)
    (name : DistinguishedName) (values : List String) :
    values.foldl (fun name value => name.add field value) name = set name (get name ++ values) := by
  induction values generalizing name with
  | nil => rw [List.foldl_nil, List.append_nil, set_get]
  | cons head tail ih =>
      rw [List.foldl_cons, ih, adds, get_set, set_set, List.append_assoc, List.singleton_append]

/-- A value that may be missing is set where there was none. -/
theorem foldl_single (field : NameField) (get : DistinguishedName → String)
    (set : DistinguishedName → String → DistinguishedName)
    (adds : ∀ name value, name.add field value = set name value)
    (set_get : ∀ name, set name (get name) = name)
    {name : DistinguishedName} (missing : get name = "") (value : String) :
    (single value).foldl (fun name value => name.add field value) name = set name value := by
  unfold single
  split
  · rename_i empty
    rw [List.foldl_nil, empty, ← missing, set_get]
  · rw [List.foldl_cons, List.foldl_nil, adds]

theorem flatMap_members_toName (name : DistinguishedName) :
    name.toName.flatMap (·.members) =
      NameField.all.flatMap fun field => (name.values field).map (attributeOf field) := by
  simp only [toName, List.flatMap_assoc, List.map_eq_flatMap]
  rfl

/-- A name is found again in the name that certificates carry. -/
theorem ofName_toName (name : DistinguishedName) : ofName name.toName = name := by
  have country := foldl_add .country (·.country)
    (fun name values => { name with country := values }) (fun _ _ => rfl) (fun _ _ => rfl)
    (fun _ _ _ => rfl) (fun _ => rfl)
  have province := foldl_add .province (·.province)
    (fun name values => { name with province := values }) (fun _ _ => rfl) (fun _ _ => rfl)
    (fun _ _ _ => rfl) (fun _ => rfl)
  have locality := foldl_add .locality (·.locality)
    (fun name values => { name with locality := values }) (fun _ _ => rfl) (fun _ _ => rfl)
    (fun _ _ _ => rfl) (fun _ => rfl)
  have organization := foldl_add .organization (·.organization)
    (fun name values => { name with organization := values }) (fun _ _ => rfl)
    (fun _ _ => rfl) (fun _ _ _ => rfl) (fun _ => rfl)
  have organizationalUnit := foldl_add .organizationalUnit (·.organizationalUnit)
    (fun name values => { name with organizationalUnit := values }) (fun _ _ => rfl)
    (fun _ _ => rfl) (fun _ _ _ => rfl) (fun _ => rfl)
  rw [ofName, flatMap_members_toName]
  simp only [NameField.all, List.flatMap_cons, List.flatMap_nil, List.append_nil,
    List.foldl_append, foldl_attributeOf, values, country, province, locality, organization,
    organizationalUnit]
  rw [foldl_single .commonName (·.commonName) (fun name value => { name with commonName := value })
      (fun _ _ => rfl) (fun _ => rfl) rfl,
    foldl_single .serialNumber (·.serialNumber)
      (fun name value => { name with serialNumber := value }) (fun _ _ => rfl) (fun _ => rfl) rfl]
  simp

end DistinguishedName

end CertAuthority
