import CertAuthority.Extension.Basic

/-!
# Basic constraints

Whether the holder of a certificate may sign certificates, and how many further
authorities may then stand between it and the last certificate.
-/

namespace CertAuthority

/-- Whether the holder is an authority, and the length of chains below it. -/
structure BasicConstraints where
  isCa : Bool
  maxPathLength : Option UInt8
deriving DecidableEq

namespace BasicConstraints

/-- The identifier 2.5.29.19. -/
def oid : Der.Oid := ⟨[0x55, 0x1d, 0x13], by decide⟩

/-- The constraints as octets; that the holder is no authority is not written. -/
def encode (constraints : BasicConstraints) : Octets :=
  Der.encode Der.Tag.sequence
    ((if constraints.isCa then Der.encodeBoolean true else []) ++
      (constraints.maxPathLength.map fun length => Der.encodeUnsigned length.toNat).getD [])

/-- Reads a length below 256. -/
def decodeLength : Der.Decoder UInt8 := fun octets => do
  let (length, rest) ← Der.decodeUnsigned octets
  if length < 256 then return (UInt8.ofNat length, rest) else none

/-- Reads both fields, which may be missing. -/
def decodeContent : Der.Decoder BasicConstraints := fun octets => do
  let (isCa, rest) ← Der.decodeOptional Der.Tag.boolean Der.decodeBoolean octets
  let (maxPathLength, rest) ← Der.decodeOptional Der.Tag.integer decodeLength rest
  return (⟨isCa.getD false, maxPathLength⟩, rest)

/-- Reads constraints that fill the octets. -/
def decode? (octets : Octets) : Option BasicConstraints :=
  Der.complete (Der.decodeNested Der.Tag.sequence decodeContent) octets

instance : ExtensionValue BasicConstraints where
  oid := oid
  encode constraints := .ok constraints.encode
  decode octets := orError .malformedExtension (decode? octets)

end BasicConstraints

end CertAuthority
