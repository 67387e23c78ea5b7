import CertAuthority.Der.Oid
import CertAuthority.Der.Set
import CertAuthority.Der.Value

/-!
# Names of certificate holders

A name is a list of sets of attributes, each an object identifier with a value
of some string type.  The members of a set are kept in ascending order of their
octets and none occurs twice, whatever order they were read in.
-/

namespace CertAuthority.X509

open Der (Decoder Oid Any)

/-- An attribute of a name. -/
structure NameAttribute where
  oid : Oid
  value : Any
deriving DecidableEq

namespace NameAttribute

/-- The attribute as octets. -/
def encode (item : NameAttribute) : Octets :=
  Der.encode Der.Tag.sequence (item.oid.encode ++ item.value.encode)

/-- Reads identifier and value. -/
def decodeContent : Decoder NameAttribute := fun octets => do
  let (oid, rest) ← Oid.decode octets
  let (value, rest) ← Any.decode rest
  return (⟨oid, value⟩, rest)

/-- Reads an attribute. -/
def decode : Decoder NameAttribute :=
  Der.decodeNested Der.Tag.sequence decodeContent

end NameAttribute

/-- Attributes that are given together. -/
abbrev RelativeName := Der.SetOf NameAttribute.encode

/-- The set of attributes as octets. -/
def RelativeName.encode (name : RelativeName) : Octets :=
  Der.encode Der.Tag.set (name.members.flatMap NameAttribute.encode)

/-- Reads a set of attributes and sorts it. -/
def RelativeName.decode : Decoder RelativeName := fun octets => do
  let (attributes, rest) ← Der.decodeList Der.Tag.set NameAttribute.decode octets
  let name ← Der.SetOf.ofMembers? NameAttribute.encode attributes
  return (name, rest)

/-- The name of a certificate holder. -/
abbrev Name := List RelativeName

/-- The name as octets. -/
def Name.encode (name : Name) : Octets :=
  Der.encode Der.Tag.sequence (name.flatMap RelativeName.encode)

/-- Reads a name. -/
def Name.decode : Decoder Name :=
  Der.decodeList Der.Tag.sequence RelativeName.decode

/-- Reads a name that fills the octets. -/
def Name.ofOctets? (octets : Octets) : Option Name :=
  Der.complete Name.decode octets

end CertAuthority.X509
