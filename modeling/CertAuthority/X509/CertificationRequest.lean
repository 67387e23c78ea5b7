import CertAuthority.Der.Set
import CertAuthority.X509.Extension
import CertAuthority.X509.Name
import CertAuthority.X509.PublicKeyInfo

/-!
# Certification requests

What a certificate is asked for with: a name, a public key and attributes, all
signed with the private key.  One attribute holds the extensions that the
certificate should have; `CertificationRequest.extensions?` reads them.
-/

namespace CertAuthority.X509

open Der (Any BitString Decoder Oid)

/-- An attribute with its values as elements in ascending order. -/
structure RequestAttribute where
  oid : Oid
  values : List Octets
deriving DecidableEq

namespace RequestAttribute

/-- The attribute as octets. -/
def encode (item : RequestAttribute) : Octets :=
  Der.encode Der.Tag.sequence
    (item.oid.encode ++ Der.encode Der.Tag.set item.values.flatten)

/-- Reads identifier and values, and sorts these. -/
def decodeContent : Decoder RequestAttribute := fun octets => do
  let (oid, rest) ← Oid.decode octets
  let (values, rest) ← Der.decodeList Der.Tag.set Any.decode rest
  let sorted ← Der.sortSet Any.encode values
  return (⟨oid, sorted.map Any.encode⟩, rest)

/-- Reads an attribute. -/
def decode : Decoder RequestAttribute :=
  Der.decodeNested Der.Tag.sequence decodeContent

/-- The identifier 1.2.840.113549.1.9.14 of the attribute that holds extensions. -/
def extensionsOid : Oid :=
  ⟨[0x2a, 0x86, 0x48, 0x86, 0xf7, 0x0d, 0x01, 0x09, 0x0e], by decide⟩

/-- The attribute that holds extensions. -/
def ofExtensions (extensions : List Extension) : RequestAttribute :=
  ⟨extensionsOid, [Extension.encodeList extensions]⟩

end RequestAttribute

/-- The part of a request that is signed. -/
structure CertificationRequestInfo where
  subject : Name
  publicKey : PublicKeyInfo
  requestAttributes : List RequestAttribute
deriving DecidableEq

namespace CertificationRequestInfo

/-- The number the only version is written as. -/
def version : Nat := 0

/-- The signed part as octets. -/
def encode (info : CertificationRequestInfo) : Octets :=
  Der.encode Der.Tag.sequence
    (Der.encodeUnsigned version ++ info.subject.encode ++ info.publicKey.encode ++
      Der.encode (Der.Tag.constructedField 0)
        (info.requestAttributes.flatMap RequestAttribute.encode))

/-- Reads the fields in their order, and sorts the attributes. -/
def decodeContent : Decoder CertificationRequestInfo := fun octets => do
  let (number, rest) ← Der.decodeUnsigned octets
  if number = version then
    let (subject, rest) ← Name.decode rest
    let (publicKey, rest) ← PublicKeyInfo.decode rest
    let (items, rest) ← Der.decodeList (Der.Tag.constructedField 0) RequestAttribute.decode rest
    let sorted ← Der.sortSet RequestAttribute.encode items
    return (⟨subject, publicKey, sorted⟩, rest)
  else none

/-- Reads a signed part. -/
def decode : Decoder CertificationRequestInfo :=
  Der.decodeNested Der.Tag.sequence decodeContent

end CertificationRequestInfo

/-- A signed request. -/
structure CertificationRequest where
  info : CertificationRequestInfo
  signatureAlgorithm : AlgorithmIdentifier
  signature : BitString
deriving DecidableEq

namespace CertificationRequest

/-- The request as octets. -/
def encode (request : CertificationRequest) : Octets :=
  Der.encode Der.Tag.sequence
    (request.info.encode ++ request.signatureAlgorithm.encode ++ request.signature.encode)

/-- Reads the three parts. -/
def decodeContent : Decoder CertificationRequest := fun octets => do
  let (info, rest) ← CertificationRequestInfo.decode octets
  let (signatureAlgorithm, rest) ← AlgorithmIdentifier.decode rest
  let (signature, rest) ← BitString.decode rest
  return (⟨info, signatureAlgorithm, signature⟩, rest)

/-- Reads a request. -/
def decode : Decoder CertificationRequest :=
  Der.decodeNested Der.Tag.sequence decodeContent

/-- The extensions that are asked for, if the attribute that holds them has one value and it
is a list of extensions; there are none without that attribute. -/
def extensions? (request : CertificationRequest) : Option (List Extension) :=
  match request.info.requestAttributes.find? (·.oid = RequestAttribute.extensionsOid) with
  | none => some []
  | some item =>
      match item.values with
      | [value] => Der.complete Extension.decodeList value
      | _ => none

end CertificationRequest

end CertAuthority.X509
