import CertAuthority.Der.Oid

/-!
# Algorithm identifiers

A certificate names an algorithm by an object identifier and an optional
element of parameters, whose meaning depends on the identifier.  Any object
identifier is written, but not all of them are read again (`Oid.isReadable`).
-/

namespace CertAuthority.X509

open Der (Decoder Oid Any)

/-- An algorithm and its parameters. -/
@[ext]
structure AlgorithmIdentifier where
  oid : Oid
  parameters : Option Any
deriving DecidableEq

namespace AlgorithmIdentifier

/-- The identifier as octets. -/
def encode (identifier : AlgorithmIdentifier) : Octets :=
  Der.encode Der.Tag.sequence
    (identifier.oid.encode ++ (identifier.parameters.map Any.encode).getD [])

/-- Reads the identifier and the parameters, if there is an element left. -/
def decodeContent : Decoder AlgorithmIdentifier := fun octets => do
  let (oid, rest) ← Oid.decode octets
  if rest.isEmpty then return (⟨oid, none⟩, [])
  else
    let (parameters, rest) ← Any.decode rest
    return (⟨oid, some parameters⟩, rest)

/-- Reads an identifier. -/
def decode : Decoder AlgorithmIdentifier :=
  Der.decodeNested Der.Tag.sequence decodeContent

end AlgorithmIdentifier

end CertAuthority.X509
