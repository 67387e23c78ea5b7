import CertAuthority.DistinguishedName
import CertAuthority.Key.Policy
import CertAuthority.Request.Document
import CertAuthority.Text.Blank

/-!
# Requests

A request is a document that was checked: the key that it asks for can be made,
and it names a subject.  Texts are trimmed, and names in which only the serial
number is left are dropped.
-/

namespace CertAuthority

/-- One of the names of a subject; a text that is empty is not there. -/
structure SubjectName where
  country : String
  province : String
  locality : String
  organization : String
  organizationalUnit : String
  serialNumber : String
deriving DecidableEq

namespace SubjectName

/-- A text without blanks around it, empty if it is missing. -/
def trimmed (text : Option String) : String :=
  Text.trim (text.getD "")

/-- The trimmed texts of an entry. -/
def ofEntry (entry : NameEntry) : SubjectName :=
  { country := trimmed entry.country
    province := trimmed entry.province
    locality := trimmed entry.locality
    organization := trimmed entry.organization
    organizationalUnit := trimmed entry.organizationalUnit
    serialNumber := trimmed entry.serialNumber }

/-- Whether nothing but a serial number is there. -/
def isEmpty (name : SubjectName) : Bool :=
  name.country.isEmpty && name.province.isEmpty && name.locality.isEmpty &&
    name.organization.isEmpty && name.organizationalUnit.isEmpty

end SubjectName

/-- A checked request for a certificate. -/
structure CertificateRequest where
  keyAlgorithm : KeyAlgorithm
  /-- Bits of the key, zero for the default of the algorithm. -/
  keySize : Nat
  commonName : String
  names : List SubjectName
  hosts : List String
  serialNumber : String
deriving DecidableEq

namespace CertificateRequest

/-- The size of the key, zero if it is missing. -/
def keySizeOf : Option Int → Except Error Nat
  | none => .ok 0
  | some size => if size < 0 then .error (.negativeKeySize size) else .ok size.toNat

/-- Checks a document: the size of the key, its algorithm, both together, and the subject. -/
def ofDocument (document : RequestDocument) : Except Error CertificateRequest := do
  let keySize ← keySizeOf document.keySize
  let keyAlgorithm ← KeyAlgorithm.validate (document.keyAlgorithm.getD "") keySize
  let names := ((document.names.getD []).map SubjectName.ofEntry).filter (!·.isEmpty)
  let commonName := SubjectName.trimmed document.commonName
  if commonName.isEmpty && names.isEmpty then .error .noSubject
  else
    return { keyAlgorithm, keySize, commonName, names
             hosts := (document.hosts.getD []).map Text.trim
             serialNumber := SubjectName.trimmed document.serialNumber }

/-- The values of an attribute over all names. -/
def collect (request : CertificateRequest) (value : SubjectName → String) : List String :=
  (request.names.map value).filter (!·.isEmpty)

/-- The name of the subject; serial numbers within names are not part of it. -/
def subject (request : CertificateRequest) : DistinguishedName :=
  { country := request.collect (·.country)
    province := request.collect (·.province)
    locality := request.collect (·.locality)
    organization := request.collect (·.organization)
    organizationalUnit := request.collect (·.organizationalUnit)
    commonName := request.commonName
    serialNumber := request.serialNumber }

end CertificateRequest

end CertAuthority
