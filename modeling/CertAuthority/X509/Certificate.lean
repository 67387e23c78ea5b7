import CertAuthority.X509.Extension
import CertAuthority.X509.Name
import CertAuthority.X509.PublicKeyInfo
import CertAuthority.X509.Time

/-!
# Certificates

A certificate is a signed part, the algorithm of the signature and its bits.
The signed part binds a name to a public key for a period of time.  A version
below the second and an extension that is not critical are not written; reading
accepts them when they are.
-/

namespace CertAuthority.X509

open Der (BitString Decoder)

/-- The versions of the certificate format. -/
inductive Version where
  | v1
  | v2
  | v3
deriving DecidableEq

namespace Version

/-- The number a version is written as. -/
def number : Version → Nat
  | v1 => 0
  | v2 => 1
  | v3 => 2

/-- The version written as a number. -/
def ofNumber? (number : Nat) : Option Version :=
  [v1, v2, v3].find? (·.number = number)

/-- Reads a version. -/
def decode : Decoder Version := fun octets => do
  let (number, rest) ← Der.decodeUnsigned octets
  let version ← ofNumber? number
  return (version, rest)

end Version

/-- The number an issuer gives to a certificate, as the octets of its element. -/
structure SerialNumber where
  content : Octets
deriving DecidableEq

namespace SerialNumber

/-- Octets of the longest number that is read. -/
def maxSize : Nat := 21

/-- The serial number with a given value. -/
def ofNat (value : Nat) : SerialNumber :=
  ⟨Der.unsignedContent value⟩

/-- The value, which may be negative. -/
def value (serial : SerialNumber) : Int :=
  Der.signedValue serial.content

/-- The serial number as octets. -/
def encode (serial : SerialNumber) : Octets :=
  Der.encode Der.Tag.integer serial.content

/-- Reads the content of a serial number. -/
def ofContent? (content : Octets) : Option SerialNumber :=
  if Der.isSignedContent content ∧ content.length ≤ maxSize then some ⟨content⟩ else none

/-- Reads a serial number under a given tag. -/
def decodeAs (tag : Der.Tag) : Decoder SerialNumber := fun octets => do
  let (content, rest) ← Der.decodeTagged tag octets
  let serial ← ofContent? content
  return (serial, rest)

/-- Reads a serial number. -/
def decode : Decoder SerialNumber :=
  decodeAs Der.Tag.integer

end SerialNumber

/-- The part of a certificate that is signed. -/
structure TbsCertificate where
  version : Version
  serialNumber : SerialNumber
  signatureAlgorithm : AlgorithmIdentifier
  issuer : Name
  validity : Period
  subject : Name
  publicKey : PublicKeyInfo
  issuerId : Option BitString
  subjectId : Option BitString
  extensions : Option (List Extension)
deriving DecidableEq

namespace TbsCertificate

/-- An optional field with a bit string for its value. -/
def encodeId (number : Nat) (id : Option BitString) : Octets :=
  (id.map fun bits => Der.encode (Der.Tag.field number) bits.content).getD []

/-- Reads an optional field with a bit string for its value. -/
def decodeId (number : Nat) : Decoder (Option BitString) :=
  Der.decodeField number (BitString.decodeAs (Der.Tag.field number))

/-- The version field, which the first version does not have. -/
def encodeVersion (version : Version) : Octets :=
  if version = .v1 then []
  else Der.encode (Der.Tag.constructedField 0) (Der.encodeUnsigned version.number)

/-- The field of extensions, if there is one. -/
def encodeExtensions (extensions : Option (List Extension)) : Octets :=
  (extensions.map fun list =>
    Der.encode (Der.Tag.constructedField 3) (Extension.encodeList list)).getD []

/-- The signed part as octets. -/
def encode (tbs : TbsCertificate) : Octets :=
  Der.encode Der.Tag.sequence
    (encodeVersion tbs.version ++ tbs.serialNumber.encode ++ tbs.signatureAlgorithm.encode ++
      tbs.issuer.encode ++ tbs.validity.encode ++ tbs.subject.encode ++ tbs.publicKey.encode ++
      encodeId 1 tbs.issuerId ++ encodeId 2 tbs.subjectId ++ encodeExtensions tbs.extensions)

/-- Reads the fields in their order. -/
def decodeContent : Decoder TbsCertificate := fun octets => do
  let (version, rest) ← Der.decodeWrapped 0 Version.decode octets
  let (serialNumber, rest) ← SerialNumber.decode rest
  let (signatureAlgorithm, rest) ← AlgorithmIdentifier.decode rest
  let (issuer, rest) ← Name.decode rest
  let (validity, rest) ← Period.decode rest
  let (subject, rest) ← Name.decode rest
  let (publicKey, rest) ← PublicKeyInfo.decode rest
  let (issuerId, rest) ← decodeId 1 rest
  let (subjectId, rest) ← decodeId 2 rest
  let (extensions, rest) ← Der.decodeWrapped 3 Extension.decodeList rest
  return ({ version := version.getD .v1, serialNumber, signatureAlgorithm, issuer, validity,
            subject, publicKey, issuerId, subjectId, extensions }, rest)

/-- Reads a signed part. -/
def decode : Decoder TbsCertificate :=
  Der.decodeNested Der.Tag.sequence decodeContent

end TbsCertificate

/-- A signed certificate. -/
structure Certificate where
  tbs : TbsCertificate
  signatureAlgorithm : AlgorithmIdentifier
  signature : BitString
deriving DecidableEq

namespace Certificate

/-- The certificate as octets. -/
def encode (certificate : Certificate) : Octets :=
  Der.encode Der.Tag.sequence
    (certificate.tbs.encode ++ certificate.signatureAlgorithm.encode ++
      certificate.signature.encode)

/-- Reads the three parts. -/
def decodeContent : Decoder Certificate := fun octets => do
  let (tbs, rest) ← TbsCertificate.decode octets
  let (signatureAlgorithm, rest) ← AlgorithmIdentifier.decode rest
  let (signature, rest) ← BitString.decode rest
  return (⟨tbs, signatureAlgorithm, signature⟩, rest)

/-- Reads a certificate. -/
def decode : Decoder Certificate :=
  Der.decodeNested Der.Tag.sequence decodeContent

/-- All extensions in their order. -/
def extensions (certificate : Certificate) : List Extension :=
  certificate.tbs.extensions.getD []

/-- The first extension with an identifier. -/
def extension? (certificate : Certificate) (oid : Der.Oid) : Option Extension :=
  certificate.extensions.find? (·.oid = oid)

end Certificate

end CertAuthority.X509
