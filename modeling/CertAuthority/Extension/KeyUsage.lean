import CertAuthority.Extension.Basic

/-!
# Key usage

What the key of a certificate may be used for, as a set of nine flags.  The set
is written as a bit string that ends with the last flag set; flags beyond the
ninth are read and dropped.
-/

namespace CertAuthority

/-- The uses of a key, in the order of their bits. -/
inductive KeyUse where
  | digitalSignature
  | nonRepudiation
  | keyEncipherment
  | dataEncipherment
  | keyAgreement
  | certificateSigning
  | revocationSigning
  | encipherOnly
  | decipherOnly
deriving DecidableEq

namespace KeyUse

/-- Every use in the order of its bit. -/
def all : List KeyUse :=
  [digitalSignature, nonRepudiation, keyEncipherment, dataEncipherment, keyAgreement,
    certificateSigning, revocationSigning, encipherOnly, decipherOnly]

/-- The bit of a use. -/
def position : KeyUse → Nat
  | digitalSignature => 0
  | nonRepudiation => 1
  | keyEncipherment => 2
  | dataEncipherment => 3
  | keyAgreement => 4
  | certificateSigning => 5
  | revocationSigning => 6
  | encipherOnly => 7
  | decipherOnly => 8

end KeyUse

/-- A set of uses of a key, with a bit for each. -/
structure KeyUsage where
  flags : BitVec 9
deriving DecidableEq

namespace KeyUsage

/-- The set without members. -/
def empty : KeyUsage := ⟨0#9⟩

/-- Whether a set has no members. -/
def isEmpty (usage : KeyUsage) : Bool :=
  usage.flags == 0#9

/-- The set with one member. -/
def singleton (use : KeyUse) : KeyUsage :=
  ⟨BitVec.twoPow 9 use.position⟩

/-- The members of two sets. -/
def union (left right : KeyUsage) : KeyUsage :=
  ⟨left.flags ||| right.flags⟩

/-- Whether a use is a member. -/
def contains (usage : KeyUsage) (use : KeyUse) : Bool :=
  usage.flags.getLsbD use.position

/-- The members in the order of their bits. -/
def toList (usage : KeyUsage) : List KeyUse :=
  KeyUse.all.filter usage.contains

/-- The set of the members of a list. -/
def ofList (uses : List KeyUse) : KeyUsage :=
  uses.foldl (fun usage use => usage.union (singleton use)) empty

/-- The identifier 2.5.29.15. -/
def oid : Der.Oid := ⟨[0x55, 0x1d, 0x0f], by decide⟩

/-- The flags up to the last one that is set. -/
def bits (usage : KeyUsage) : List Bool :=
  ((KeyUse.all.map usage.contains).reverse.dropWhile (! ·)).reverse

/-- The set as octets. -/
def encode (usage : KeyUsage) : Octets :=
  (Der.BitString.ofBits usage.bits).encode

/-- Bits of the longest bit string that is read. -/
def maxBits : Nat := 16

/-- Reads a set that fills the octets. -/
def decode? (octets : Octets) : Option KeyUsage := do
  let bits := (← Der.complete Der.BitString.decode octets).bits
  if bits.length ≤ maxBits then
    some (ofList (KeyUse.all.filter fun use => bits.getD use.position false))
  else none

instance : ExtensionValue KeyUsage where
  oid := oid
  encode usage := .ok usage.encode
  decode octets := orError .malformedExtension (decode? octets)

end KeyUsage

end CertAuthority
