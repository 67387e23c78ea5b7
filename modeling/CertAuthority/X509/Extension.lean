import CertAuthority.Der.Oid
import CertAuthority.Der.Value

/-!
# Extensions of certificates

An extension is named by an object identifier and has an octet string for its
value; the octets are again an element, whose type depends on the identifier.
A reader that does not know a critical extension has to refuse the certificate.
-/

namespace CertAuthority.X509

open Der (Decoder Oid)

/-- An extension with its value as octets. -/
structure Extension where
  oid : Oid
  critical : Bool
  value : Octets
deriving DecidableEq

namespace Extension

/-- The extension as octets; that it is not critical is not written. -/
def encode (extension : Extension) : Octets :=
  Der.encode Der.Tag.sequence
    (extension.oid.encode ++
      ((if extension.critical then Der.encodeBoolean true else []) ++
        Der.encodeOctetString extension.value))

/-- Reads identifier, criticality and value. -/
def decodeContent : Decoder Extension := fun octets => do
  let (oid, rest) ← Oid.decode octets
  let (critical, rest) ← Der.decodeOptional Der.Tag.boolean Der.decodeBoolean rest
  let (value, rest) ← Der.decodeOctetString rest
  return (⟨oid, critical.getD false, value⟩, rest)

/-- Reads an extension. -/
def decode : Decoder Extension :=
  Der.decodeNested Der.Tag.sequence decodeContent

/-- A list of extensions as octets. -/
def encodeList (extensions : List Extension) : Octets :=
  Der.encode Der.Tag.sequence (extensions.flatMap encode)

/-- Reads a list of extensions. -/
def decodeList : Decoder (List Extension) :=
  Der.decodeList Der.Tag.sequence decode

end Extension

end CertAuthority.X509
