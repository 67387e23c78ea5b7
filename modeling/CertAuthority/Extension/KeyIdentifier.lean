import CertAuthority.Extension.Basic
import CertAuthority.X509.GeneralName

/-!
# Key identifiers

A certificate may give an identifier to its own key and name the identifier of
the key that signed it.  Other ways to name that key, by its certificate, are
read and dropped.
-/

namespace CertAuthority

/-- The identifier of the key of a certificate. -/
structure SubjectKeyIdentifier where
  identifier : Octets
deriving DecidableEq

namespace SubjectKeyIdentifier

/-- The identifier 2.5.29.14. -/
def oid : Der.Oid := ⟨[0x55, 0x1d, 0x0e], by decide⟩

/-- The identifier of a key as octets. -/
def encode (key : SubjectKeyIdentifier) : Octets :=
  Der.encodeOctetString key.identifier

/-- Reads an identifier that fills the octets. -/
def decode? (octets : Octets) : Option SubjectKeyIdentifier :=
  (Der.complete Der.decodeOctetString octets).map (⟨·⟩)

instance : ExtensionValue SubjectKeyIdentifier where
  oid := oid
  encode key := .ok key.encode
  decode octets := orError .malformedExtension (decode? octets)

end SubjectKeyIdentifier

/-- The identifier of the key that signed a certificate. -/
structure AuthorityKeyIdentifier where
  identifier : Octets
deriving DecidableEq

namespace AuthorityKeyIdentifier

/-- The identifier 2.5.29.35. -/
def oid : Der.Oid := ⟨[0x55, 0x1d, 0x23], by decide⟩

/-- The identifier of a key as octets. -/
def encode (key : AuthorityKeyIdentifier) : Octets :=
  Der.encode Der.Tag.sequence (Der.encode (Der.Tag.field 0) key.identifier)

/-- Reads the identifier, and names and serial number of the certificate, which may be missing. -/
def decodeContent : Der.Decoder AuthorityKeyIdentifier := fun octets => do
  let (identifier, rest) ← Der.decodeField 0 (Der.decodeTagged (Der.Tag.field 0)) octets
  let (_, rest) ← Der.decodeField 1
    (Der.decodeList (Der.Tag.constructedField 1) X509.GeneralName.decode) rest
  let (_, rest) ← Der.decodeField 2 (X509.SerialNumber.decodeAs (Der.Tag.field 2)) rest
  return (⟨identifier.getD []⟩, rest)

/-- Reads an identifier that fills the octets. -/
def decode? (octets : Octets) : Option AuthorityKeyIdentifier :=
  Der.complete (Der.decodeNested Der.Tag.sequence decodeContent) octets

instance : ExtensionValue AuthorityKeyIdentifier where
  oid := oid
  encode key := .ok key.encode
  decode octets := orError .malformedExtension (decode? octets)

end AuthorityKeyIdentifier

end CertAuthority
