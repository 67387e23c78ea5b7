import CertAuthority.Der.Element

/-!
# Booleans, numbers and strings

The contents of the elements certificates are made of.  Each type has one
written form, and its decoder accepts that form alone: a number is read only if
writing it again gives the same octets.
-/

namespace CertAuthority.Der

/-- A truth value. -/
def encodeBoolean (value : Bool) : Octets :=
  encode Tag.boolean [if value then 0xff else 0x00]

/-- Reads a truth value; only the octets `00` and `ff` are one. -/
def decodeBoolean : Decoder Bool := fun octets => do
  let (content, rest) ← decodeTagged Tag.boolean octets
  match content with
  | [0x00] => some (false, rest)
  | [0xff] => some (true, rest)
  | _ => none

/-- The fewest octets of a number whose leading bit is clear. -/
def unsignedContent (value : Nat) : Octets :=
  match Octets.ofNat value with
  | [] => [0x00]
  | first :: rest => if first < 0x80 then first :: rest else 0x00 :: first :: rest

/-- A number that is not negative. -/
def encodeUnsigned (value : Nat) : Octets :=
  encode Tag.integer (unsignedContent value)

/-- Reads the content of a number that is not negative. -/
def unsignedOfContent? (content : Octets) : Option Nat :=
  let value := Octets.toNat content
  if unsignedContent value = content then some value else none

/-- Reads a number that is not negative. -/
def decodeUnsigned : Decoder Nat := fun octets => do
  let (content, rest) ← decodeTagged Tag.integer octets
  let value ← unsignedOfContent? content
  return (value, rest)

/-- Whether octets are the shortest two's complement form of some number. -/
def isSignedContent : Octets → Bool
  | [] => false
  | 0x00 :: second :: _ => 0x80 ≤ second
  | 0xff :: second :: _ => second < 0x80
  | _ => true

/-- The number whose two's complement form the octets are. -/
def signedValue : Octets → Int
  | [] => 0
  | first :: rest =>
      let magnitude := (Octets.toNat (first :: rest) : Int)
      if first < 0x80 then magnitude else magnitude - Nat.pow 2 (8 * (rest.length + 1))

/-- An octet string. -/
def encodeOctetString (octets : Octets) : Octets :=
  encode Tag.octetString octets

/-- Reads an octet string. -/
def decodeOctetString : Decoder Octets :=
  decodeTagged Tag.octetString

/-- Whether so many bits of the last octet can be unused. -/
def isUnusedCount (unused : Nat) (octets : Octets) : Bool :=
  unused ≤ 7 && (unused == 0 || !octets.isEmpty)

/-- A string of bits: octets, the last of which may have unused low bits. -/
structure BitString where
  unused : Nat
  octets : Octets
  fitting : isUnusedCount unused octets = true
deriving DecidableEq

namespace BitString

/-- A bit string that uses all bits of its octets. -/
def ofOctets (octets : Octets) : BitString := ⟨0, octets, rfl⟩

/-- The octets of a bit string without unused bits. -/
def wholeOctets? (bits : BitString) : Option Octets :=
  if bits.unused = 0 then some bits.octets else none

/-- The eight bits of an octet, most significant first. -/
def octetBits (octet : UInt8) : List Bool :=
  (List.range 8).map fun place => octet.toNat.testBit (7 - place)

/-- The bits that are used. -/
def bits (string : BitString) : List Bool :=
  let all := string.octets.flatMap octetBits
  all.take (all.length - string.unused)

/-- The octet with the given bits, most significant first; bits that are missing are zero. -/
def octetOfBits (bits : List Bool) : UInt8 :=
  UInt8.ofNat ((List.range 8).foldl
    (fun value place => value * 2 + (bits.getD place false).toNat) 0)

/-- Packs bits into `count` octets. -/
def packBits : (count : Nat) → List Bool → Octets
  | 0, _ => []
  | count + 1, bits => octetOfBits bits :: packBits count (bits.drop 8)

theorem isUnusedCount_packBits (bits : List Bool) :
    isUnusedCount (8 * ((bits.length + 7) / 8) - bits.length)
      (packBits ((bits.length + 7) / 8) bits) = true := by
  cases bits with
  | nil => rfl
  | cons bit rest =>
      have some : (rest.length + 1 + 7) / 8 = (rest.length + 1 + 7) / 8 - 1 + 1 := by omega
      simp only [isUnusedCount, List.length_cons, Bool.and_eq_true, decide_eq_true_eq]
      refine ⟨by omega, ?_⟩
      rw [some]
      simp [packBits]

/-- The bit string of a list of bits. -/
def ofBits (bits : List Bool) : BitString :=
  let count := (bits.length + 7) / 8
  ⟨8 * count - bits.length, packBits count bits, isUnusedCount_packBits bits⟩

/-- The content of the element: the unused bits counted, then the octets. -/
def content (bits : BitString) : Octets :=
  UInt8.ofNat bits.unused :: bits.octets

/-- Reads the content of a bit string. -/
def ofContent? : Octets → Option BitString
  | [] => none
  | unused :: octets =>
      if fitting : isUnusedCount unused.toNat octets = true then
        some ⟨unused.toNat, octets, fitting⟩
      else none

/-- The bit string as octets. -/
def encode (bits : BitString) : Octets :=
  Der.encode Tag.bitString bits.content

/-- Reads a bit string under a given tag. -/
def decodeAs (tag : Tag) : Decoder BitString := fun octets => do
  let (content, rest) ← decodeTagged tag octets
  let bits ← ofContent? content
  return (bits, rest)

/-- Reads a bit string. -/
def decode : Decoder BitString :=
  decodeAs Tag.bitString

end BitString

end CertAuthority.Der
