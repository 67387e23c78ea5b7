import CertAuthority.Proofs.DistinguishedName
import CertAuthority.Proofs.Text.Utf8
import CertAuthority.Proofs.X509.Certificate

/-!
# Names of holders as octets

The name that certificates carry for a distinguished name is a list of sets with
one attribute each, in the order of the attributes.  It is read back from its
octets and the distinguished name is found again in it, so that two names have
the same octets only if they are the same.

A value is a printable string exactly if all of its characters may be in one,
which is seen from its octets.
-/

namespace CertAuthority

open Der (Any)

/-! ## Printable strings -/

/-- Whether a character may be in a printable string. -/
def isPrintableChar (char : Char) : Bool :=
  char.isAlphanum || " '()+,-./:=?".toList.contains char

theorem ascii_of_isPrintableChar {char : Char} (printable : isPrintableChar char = true) :
    char.toNat < 128 :=
  Text.ascii_of_isAlphanum_or_contains (by decide) printable

theorem ascii_of_isPrintable {octet : UInt8} : isPrintable octet = true → octet < 128 :=
  Octets.forall_octet (fun octet => isPrintable octet = true → octet < 128) (by decide +kernel)
    octet

theorem all_isPrintable_utf8EncodeChar (char : Char) :
    (String.utf8EncodeChar char).all isPrintable = isPrintableChar char := by
  by_cases ascii : char.toNat < 128
  · have every : ∀ number < 128, (String.utf8EncodeChar (Char.ofNat number)).all isPrintable =
        isPrintableChar (Char.ofNat number) := by decide +kernel
    rw [← Char.ofNat_toNat char]
    exact every char.toNat ascii
  · -- Every other character has an octet above the seven-bit ones.
    have noneOf : isPrintableChar char = false :=
      Bool.eq_false_iff.mpr fun printable => ascii (ascii_of_isPrintableChar printable)
    rw [noneOf, Bool.eq_false_iff]
    intro printable
    refine ascii ((Text.isAscii_utf8EncodeChar char).mp (List.all_eq_true.mpr ?_))
    intro octet member
    exact decide_eq_true (ascii_of_isPrintable (List.all_eq_true.mp printable octet member))

theorem all_isPrintable_utf8 (text : String) :
    (Text.utf8 text).all isPrintable = text.toList.all isPrintableChar := by
  simp only [Text.all_utf8, all_isPrintable_utf8EncodeChar]

theorem encodeText_eq (text : String) :
    encodeText text =
      ⟨if text.toList.all isPrintableChar then Der.Tag.printableString else Der.Tag.utf8String,
        Text.utf8 text⟩ := by
  rw [encodeText, all_isPrintable_utf8]

/-! ## Identifiers -/

namespace NameField

/-- The last arc of the identifier of an attribute. -/
def lastArc : NameField → Nat
  | country => 6
  | province => 8
  | locality => 7
  | organization => 10
  | organizationalUnit => 11
  | commonName => 3
  | serialNumber => 5

theorem arcs_oid (field : NameField) : field.oid.arcs = [2, 5, 4, field.lastArc] := by
  cases field <;> rfl

theorem isReadable_oid (field : NameField) : field.oid.isReadable = true := by
  cases field <;> decide

end NameField

namespace DistinguishedName

/-! ## Names and their octets -/

theorem map_single {α : Type} (make : String → α) (text : String) :
    (single text).map make = if text = "" then [] else [make text] := by
  unfold single
  split <;> rfl

/-- Every value as an attribute by itself, attribute by attribute; a common name or a serial number
that is empty is not there. -/
def attributeSets (name : DistinguishedName) : List (List X509.NameAttribute) :=
  name.country.map (fun value => [attributeOf .country value]) ++
  name.province.map (fun value => [attributeOf .province value]) ++
  name.locality.map (fun value => [attributeOf .locality value]) ++
  name.organization.map (fun value => [attributeOf .organization value]) ++
  name.organizationalUnit.map (fun value => [attributeOf .organizationalUnit value]) ++
  (if name.commonName = "" then [] else [[attributeOf .commonName name.commonName]]) ++
  (if name.serialNumber = "" then [] else [[attributeOf .serialNumber name.serialNumber]])

theorem members_toName (name : DistinguishedName) :
    name.toName.map (·.members) = name.attributeSets := by
  have each : name.toName.map (·.members) = NameField.all.flatMap fun field =>
      (name.values field).map fun value => [attributeOf field value] := by
    simp only [toName, List.map_flatMap, List.map_map]
    rfl
  rw [each]
  simp only [attributeSets, NameField.all, List.flatMap_cons, List.flatMap_nil, List.append_nil,
    values, map_single, List.append_assoc]

/-- The identifiers in the name of a distinguished name are read. -/
theorem isReadable_toName (name : DistinguishedName) : name.toName.IsReadable := by
  intro part inside
  rcases List.mem_flatMap.mp inside with ⟨field, _, inside⟩
  rcases List.mem_map.mp inside with ⟨value, _, rfl⟩
  exact List.forall_mem_singleton.mpr field.isReadable_oid

theorem ofOctets?_encode_toName (name : DistinguishedName)
    (short : name.toName.encode.length ≤ Der.maxLength) :
    X509.Name.ofOctets? name.toName.encode = some name.toName :=
  ((X509.Name.readsIf name.toName).reads name.isReadable_toName).complete short

/-- Names with the same octets are the same. -/
theorem eq_of_encode_toName_eq {name other : DistinguishedName}
    (same : other.toName.encode = name.toName.encode)
    (short : name.toName.encode.length ≤ Der.maxLength) : other = name := by
  have found := ofOctets?_encode_toName other (same ▸ short)
  rw [same, ofOctets?_encode_toName name short] at found
  rw [← ofName_toName other, ← Option.some.inj found, ofName_toName]

/-- A name is written value by value, each as a printable string where its characters allow it, and
read back from its octets; no other name has the same octets. -/
theorem toName_readBack (name : DistinguishedName) :
    name.toName.map (·.members) = name.attributeSets ∧
      (∀ field value, (attributeOf field value).oid.arcs = [2, 5, 4, field.lastArc] ∧
        (attributeOf field value).value =
          ⟨if value.toList.all isPrintableChar then Der.Tag.printableString
            else Der.Tag.utf8String, Text.utf8 value⟩) ∧
      (name.toName.encode.length ≤ Der.maxLength →
        (X509.Name.ofOctets? name.toName.encode).map ofName = some name ∧
          ∀ other : DistinguishedName, other.toName.encode = name.toName.encode →
            other = name) := by
  refine ⟨members_toName name, fun field value => ⟨field.arcs_oid, encodeText_eq value⟩, ?_⟩
  intro short
  refine ⟨?_, fun other same => eq_of_encode_toName_eq same short⟩
  rw [ofOctets?_encode_toName name short, Option.map_some, ofName_toName]

/-- A value without characters is kept, and so is one with an accent. -/
theorem toName_readBack_accented :
    (X509.Name.ofOctets? (toName
        { locality := ["Montréal"], organization := ["test org", ""] }).encode).map ofName =
      some { locality := ["Montréal"], organization := ["test org", ""] } :=
  ((toName_readBack { locality := ["Montréal"], organization := ["test org", ""] }).2.2
    (by decide +kernel)).1

end DistinguishedName

end CertAuthority
