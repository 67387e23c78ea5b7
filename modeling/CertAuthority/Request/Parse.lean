import CertAuthority.Request.Basic
import CertAuthority.Yaml.Reading

/-!
# Request files

A request is written as a document with named fields.  Fields with other names
are passed over; a file that is not such a document is malformed, whatever its
fault.
-/

namespace CertAuthority

open Yaml (Node ValueReader)

namespace NameEntry

/-- Reads one of the names of a subject. -/
def read (node : Node) : ValueReader NameEntry := do
  let known ← ValueReader.fields ["C", "ST", "L", "O", "OU", "serialNumber"] node
  let text (name : String) := ValueReader.field known name ValueReader.text
  return { country := ← text "C"
           province := ← text "ST"
           locality := ← text "L"
           organization := ← text "O"
           organizationalUnit := ← text "OU"
           serialNumber := ← text "serialNumber" }

end NameEntry

namespace RequestDocument

/-- Reads the fields of a request. -/
def read (node : Node) : ValueReader RequestDocument := do
  let known ← ValueReader.fields
    ["keyAlgorithm", "keySize", "commonName", "names", "hosts", "serialNumber"] node
  let text (name : String) := ValueReader.field known name ValueReader.text
  return { keyAlgorithm := ← text "keyAlgorithm"
           keySize := ← ValueReader.field known "keySize" ValueReader.integer
           commonName := ← text "commonName"
           names := ← ValueReader.field known "names" (ValueReader.list NameEntry.read)
           hosts := ← ValueReader.field known "hosts" (ValueReader.list ValueReader.text)
           serialNumber := ← text "serialNumber" }

/-- Reads a request file. -/
def ofOctets? (octets : Octets) : Option RequestDocument :=
  Yaml.readOctets? read octets

end RequestDocument

/-- Reads and checks a request file. -/
def CertificateRequest.parse (octets : Octets) : Except Error CertificateRequest :=
  match RequestDocument.ofOctets? octets with
  | none => .error .malformedRequest
  | some document => ofDocument document

end CertAuthority
