import CertAuthority.Proofs.X509.Fields

/-!
# Ways of reading certificates

A certificate can be read more or less strictly: fields that stand out of
place may be passed over or not, what is never written may be read or not, and
the members of a set may be sorted or have to be.  A `Reader` says how these
four things are done; everything else is the same for all of them.

A lawful reader reads what is written, whatever else it reads
(`Reader.IsLawful`).
-/

namespace CertAuthority.X509

open Der (Any BitString Decoder IsBeyond Oid Reads ReadsIf)

/-- What readers of certificates may do differently. -/
structure Reader where
  /-- Reads the context-specific field with a number, if there is one. -/
  field : {α : Type} → Nat → Decoder α → Decoder (Option α)
  /-- Reads a version that is written. -/
  version : Decoder Version
  /-- Reads whether an extension is critical, if that is written. -/
  critical : Decoder (Option Bool)
  /-- Reads attributes that are given together. -/
  relativeName : Decoder RelativeName

namespace Reader

/-- Reads a field as an element around another. -/
def wrapped {α : Type} (reader : Reader) (number : Nat) (decoder : Decoder α) :
    Decoder (Option α) :=
  reader.field number (Der.decodeNested (Der.Tag.constructedField number) decoder)

/-- Reads an optional field with a bit string for its value. -/
def id (reader : Reader) (number : Nat) : Decoder (Option BitString) :=
  reader.field number (BitString.decodeAs (Der.Tag.field number))

/-- Reads identifier, criticality and value of an extension. -/
def extensionContent (reader : Reader) : Decoder Extension := fun octets => do
  let (oid, rest) ← Oid.decode octets
  let (critical, rest) ← reader.critical rest
  let (value, rest) ← Der.decodeOctetString rest
  return (⟨oid, critical.getD false, value⟩, rest)

/-- Reads an extension. -/
def extension (reader : Reader) : Decoder Extension :=
  Der.decodeNested Der.Tag.sequence reader.extensionContent

/-- Reads a list of extensions. -/
def extensions (reader : Reader) : Decoder (List Extension) :=
  Der.decodeList Der.Tag.sequence reader.extension

/-- Reads a name. -/
def name (reader : Reader) : Decoder Name :=
  Der.decodeList Der.Tag.sequence reader.relativeName

/-- Reads the fields of a signed part in their order. -/
def tbsContent (reader : Reader) : Decoder TbsCertificate := fun octets => do
  let (version, rest) ← reader.wrapped 0 reader.version octets
  let (serialNumber, rest) ← SerialNumber.decode rest
  let (signatureAlgorithm, rest) ← AlgorithmIdentifier.decode rest
  let (issuer, rest) ← reader.name rest
  let (validity, rest) ← Period.decode rest
  let (subject, rest) ← reader.name rest
  let (publicKey, rest) ← PublicKeyInfo.decode rest
  let (issuerId, rest) ← reader.id 1 rest
  let (subjectId, rest) ← reader.id 2 rest
  let (extensions, rest) ← reader.wrapped 3 reader.extensions rest
  return ({ version := version.getD .v1, serialNumber, signatureAlgorithm, issuer, validity,
            subject, publicKey, issuerId, subjectId, extensions }, rest)

/-- Reads a signed part. -/
def tbs (reader : Reader) : Decoder TbsCertificate :=
  Der.decodeNested Der.Tag.sequence reader.tbsContent

/-- Reads the three parts of a certificate. -/
def certificateContent (reader : Reader) : Decoder Certificate := fun octets => do
  let (tbs, rest) ← reader.tbs octets
  let (signatureAlgorithm, rest) ← AlgorithmIdentifier.decode rest
  let (signature, rest) ← BitString.decode rest
  return (⟨tbs, signatureAlgorithm, signature⟩, rest)

/-- Reads a certificate. -/
def certificate (reader : Reader) : Decoder Certificate :=
  Der.decodeNested Der.Tag.sequence reader.certificateContent

/-- The reader that `Certificate.decode` is. -/
def usual : Reader where
  field := Der.decodeField
  version := Version.decode
  critical := Der.decodeOptional Der.Tag.boolean Der.decodeBoolean
  relativeName := RelativeName.decode

theorem certificate_usual : usual.certificate = Certificate.decode := rfl

theorem tbs_usual : usual.tbs = TbsCertificate.decode := rfl

/-- Whether a reader reads what is written, and misses nothing that is not. -/
structure IsLawful (reader : Reader) : Prop where
  /-- A field is missing if what follows is not a field up to it. -/
  skips : ∀ {α : Type} (number : Nat) (decoder : Decoder α) (octets : Octets),
    IsBeyond number octets → reader.field number decoder octets = some (none, octets)
  /-- A field that comes next is read. -/
  finds : ∀ {α : Type} (condition : Prop) (number : Nat) (decoder : Decoder α) (tag : Der.Tag)
    (content : Octets) (value : α), Der.Tag.contextNumber? tag.octet = some number →
      ReadsIf condition decoder (Der.encode tag content) value →
        ReadsIf condition (reader.field number decoder) (Der.encode tag content) (some value)
  /-- The value of a field is one that the decoder of the field reads. -/
  found : ∀ {α : Type} (number : Nat) (decoder : Decoder α) (octets rest : Octets) (value : α),
    reader.field number decoder octets = some (some value, rest) →
      ∃ start, decoder start = some (value, rest)
  /-- A version above the first is read. -/
  version : ∀ version : Version, version ≠ .v1 →
    Reads reader.version (Der.encodeUnsigned version.number) version
  /-- What is not said to be critical is not. -/
  notCritical : ∀ octets : Octets, octets.head? ≠ some Der.Tag.boolean.octet →
    reader.critical octets = some (none, octets)
  /-- That an extension is critical is read. -/
  critical : Reads reader.critical (Der.encodeBoolean true) (some true)
  /-- Attributes are read back if their identifiers are read. -/
  relativeName : ∀ name : RelativeName,
    ReadsIf name.IsReadable reader.relativeName name.encode name
  /-- The identifiers of attributes that are read are ones that are read back. -/
  readable : ∀ (octets rest : Octets) (name : RelativeName),
    reader.relativeName octets = some (name, rest) → name.IsReadable

end Reader

end CertAuthority.X509
