import CertAuthority.Text.Utf8
import CertAuthority.X509.GeneralName

/-!
# Distinguished names

The attributes by which holders of certificates are told apart.  `toName` makes
every value an attribute set of its own, in a fixed order of attributes;
`ofName` collects the values of the attributes it knows from any name.
-/

namespace CertAuthority

open Der (Any Oid)

/-- The attributes of a distinguished name, in the order in which they are written. -/
inductive NameField where
  | country
  | province
  | locality
  | organization
  | organizationalUnit
  | commonName
  | serialNumber
deriving DecidableEq

namespace NameField

/-- Every attribute in order. -/
def all : List NameField :=
  [country, province, locality, organization, organizationalUnit, commonName, serialNumber]

/-- The identifiers 2.5.4.6, 8, 7, 10, 11, 3 and 5. -/
def oid : NameField → Oid
  | country => ⟨[0x55, 0x04, 0x06], by decide⟩
  | province => ⟨[0x55, 0x04, 0x08], by decide⟩
  | locality => ⟨[0x55, 0x04, 0x07], by decide⟩
  | organization => ⟨[0x55, 0x04, 0x0a], by decide⟩
  | organizationalUnit => ⟨[0x55, 0x04, 0x0b], by decide⟩
  | commonName => ⟨[0x55, 0x04, 0x03], by decide⟩
  | serialNumber => ⟨[0x55, 0x04, 0x05], by decide⟩

/-- The attribute with an identifier. -/
def ofOid? (oid : Oid) : Option NameField :=
  all.find? (·.oid = oid)

end NameField

/-- The name of a certificate holder by attributes; a text that is empty is not there. -/
structure DistinguishedName where
  country : List String := []
  province : List String := []
  locality : List String := []
  organization : List String := []
  organizationalUnit : List String := []
  commonName : String := ""
  serialNumber : String := ""
deriving DecidableEq

/-- A text as an element: a printable string if every character allows it. -/
def encodeText (text : String) : Any :=
  let octets := Text.utf8 text
  ⟨if octets.all isPrintable then Der.Tag.printableString else Der.Tag.utf8String, octets⟩

/-- The text of an element of one of four string types. -/
def decodeText? (value : Any) : Option String :=
  if [Der.Tag.printableString, Der.Tag.utf8String, Der.Tag.ia5String,
      Der.Tag.teletexString].contains value.tag then
    Text.ofUtf8? value.content
  else none

namespace DistinguishedName

/-- The one value of an attribute that may be missing. -/
def single (text : String) : List String :=
  if text = "" then [] else [text]

/-- The values of an attribute. -/
def values (name : DistinguishedName) : NameField → List String
  | .country => name.country
  | .province => name.province
  | .locality => name.locality
  | .organization => name.organization
  | .organizationalUnit => name.organizationalUnit
  | .commonName => single name.commonName
  | .serialNumber => single name.serialNumber

/-- Adds a value to an attribute, or sets one that has a single value. -/
def add (name : DistinguishedName) (field : NameField) (value : String) : DistinguishedName :=
  match field with
  | .country => { name with country := name.country ++ [value] }
  | .province => { name with province := name.province ++ [value] }
  | .locality => { name with locality := name.locality ++ [value] }
  | .organization => { name with organization := name.organization ++ [value] }
  | .organizationalUnit =>
      { name with organizationalUnit := name.organizationalUnit ++ [value] }
  | .commonName => { name with commonName := value }
  | .serialNumber => { name with serialNumber := value }

/-- The name as certificates carry it, every value in a set of its own. -/
def toName (name : DistinguishedName) : X509.Name :=
  NameField.all.flatMap fun field =>
    (name.values field).map fun value =>
      Der.SetOf.singleton ⟨field.oid, encodeText value⟩

/-- Adds the value of an attribute that is known and holds a text. -/
def addAttribute (name : DistinguishedName) (item : X509.NameAttribute) : DistinguishedName :=
  match NameField.ofOid? item.oid, decodeText? item.value with
  | some field, some value => name.add field value
  | _, _ => name

/-- The attributes that are known, from the name of a certificate. -/
def ofName (name : X509.Name) : DistinguishedName :=
  (name.flatMap (·.members)).foldl addAttribute {}

end DistinguishedName

end CertAuthority
