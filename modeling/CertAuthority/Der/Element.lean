import CertAuthority.Octets

/-!
# Elements of the distinguished encoding

An element is a tag octet, the length of its content and the content.  Lengths
have one form only, so `decodeElement` accepts exactly what `encode` writes, up
to the largest supported length.

A `Decoder` reads one value from the front of an octet string and returns what
follows it; `complete` demands that nothing does.
-/

namespace CertAuthority.Der

/-- Whether an octet is the tag of a supported element type. -/
def isTag (octet : UInt8) : Bool :=
  [0x01, 0x02, 0x03, 0x04, 0x05, 0x06, 0x09, 0x0a, 0x0c, 0x12, 0x13, 0x14, 0x15, 0x16, 0x17,
    0x18, 0x1a, 0x1e, 0x30, 0x31].contains octet ||
  (0x40 ≤ octet && octet &&& 0x1f != 0x1f)

/-- The type of an element. -/
structure Tag where
  octet : UInt8
  known : isTag octet = true
deriving DecidableEq

namespace Tag

/-- The tag an octet stands for. -/
def ofOctet? (octet : UInt8) : Option Tag :=
  if h : isTag octet = true then some ⟨octet, h⟩ else none

def boolean : Tag := ⟨0x01, by decide⟩
def integer : Tag := ⟨0x02, by decide⟩
def bitString : Tag := ⟨0x03, by decide⟩
def octetString : Tag := ⟨0x04, by decide⟩
def null : Tag := ⟨0x05, by decide⟩
def objectIdentifier : Tag := ⟨0x06, by decide⟩
def utf8String : Tag := ⟨0x0c, by decide⟩
def printableString : Tag := ⟨0x13, by decide⟩
def teletexString : Tag := ⟨0x14, by decide⟩
def ia5String : Tag := ⟨0x16, by decide⟩
def utcTime : Tag := ⟨0x17, by decide⟩
def generalizedTime : Tag := ⟨0x18, by decide⟩
def sequence : Tag := ⟨0x30, by decide⟩
def set : Tag := ⟨0x31, by decide⟩

theorem isTag_field (number : Nat) : isTag (0x80 + UInt8.ofNat (number % 31)) = true := by
  have every : ∀ small < 31, isTag (0x80 + UInt8.ofNat small) = true := by decide
  exact every _ (Nat.mod_lt _ (by decide))

theorem isTag_constructedField (number : Nat) :
    isTag (0xa0 + UInt8.ofNat (number % 31)) = true := by
  have every : ∀ small < 31, isTag (0xa0 + UInt8.ofNat small) = true := by decide
  exact every _ (Nat.mod_lt _ (by decide))

/-- The type of the field `number` when its content is a plain value.  One octet has room for
the numbers below 31; larger ones begin again from zero. -/
def field (number : Nat) : Tag :=
  ⟨0x80 + UInt8.ofNat (number % 31), isTag_field number⟩

/-- The type of the field `number` when its content is made of elements. -/
def constructedField (number : Nat) : Tag :=
  ⟨0xa0 + UInt8.ofNat (number % 31), isTag_constructedField number⟩

/-- The field number of a context-specific tag octet. -/
def contextNumber? (octet : UInt8) : Option Nat :=
  if octet &&& 0xc0 = 0x80 then some (octet &&& 0x1f).toNat else none

end Tag

/-- Reads one value from the front of an octet string. -/
abbrev Decoder (α : Type) := Octets → Option (α × Octets)

/-- Runs a decoder on a whole octet string. -/
def complete {α : Type} (decoder : Decoder α) (octets : Octets) : Option α :=
  match decoder octets with
  | some (value, []) => some value
  | _ => none

/-- The largest length that is read. -/
def maxLength : Nat := 0x0fffffff

/-- A length below 128 is one octet; a longer one is counted digits. -/
def encodeLength (length : Nat) : Octets :=
  if length < 128 then [UInt8.ofNat length]
  else
    let digits := Octets.ofNat length
    UInt8.ofNat (0x80 + digits.length) :: digits

/-- Reads a length in its only form. -/
def decodeLength : Decoder Nat
  | [] => none
  | first :: rest =>
      if first < 0x80 then some (first.toNat, rest)
      else
        let count := first.toNat - 0x80
        let digits := rest.take count
        let length := Octets.toNat digits
        if length ≤ maxLength ∧ first :: digits = encodeLength length then
          some (length, rest.drop count)
        else none

/-- An element as octets: tag, length and content. -/
def encode (tag : Tag) (content : Octets) : Octets :=
  tag.octet :: (encodeLength content.length ++ content)

/-- Reads one element of any supported type. -/
def decodeElement : Decoder (Tag × Octets)
  | [] => none
  | octet :: rest => do
      let tag ← Tag.ofOctet? octet
      let (length, body) ← decodeLength rest
      if body.length < length then none
      else some ((tag, body.take length), body.drop length)

/-- Reads one element of a given type and returns its content. -/
def decodeTagged (tag : Tag) : Decoder Octets := fun octets => do
  let ((found, content), rest) ← decodeElement octets
  if found = tag then some (content, rest) else none

/-- Reads an element of a given type whose whole content another decoder reads. -/
def decodeNested {α : Type} (tag : Tag) (decoder : Decoder α) : Decoder α := fun octets => do
  let (content, rest) ← decodeTagged tag octets
  let value ← complete decoder content
  return (value, rest)

/-- Reads values until nothing is left; `count` bounds how many there are. -/
def decodeRepeated {α : Type} (decoder : Decoder α) : (count : Nat) → Octets → Option (List α)
  | _, [] => some []
  | 0, _ :: _ => none
  | count + 1, octets => do
      let (value, rest) ← decoder octets
      let values ← decodeRepeated decoder count rest
      return value :: values

/-- Reads an octet string as a list of values, each at least one octet long. -/
def decodeAll {α : Type} (decoder : Decoder α) (octets : Octets) : Option (List α) :=
  decodeRepeated decoder octets.length octets

/-- Reads a value if the next element has the given type. -/
def decodeOptional {α : Type} (tag : Tag) (decoder : Decoder α) : Decoder (Option α)
  | [] => some (none, [])
  | octet :: rest =>
      if octet = tag.octet then do
        let (value, after) ← decoder (octet :: rest)
        return (some value, after)
      else some (none, octet :: rest)

/--
Looks for a context-specific field.  Fields with a smaller number are passed
over; `count` bounds how many there are.
-/
def decodeFieldAfter {α : Type} (number : Nat) (decoder : Decoder α) :
    (count : Nat) → Decoder (Option α)
  | _, [] => some (none, [])
  | 0, octets => some (none, octets)
  | count + 1, octet :: rest =>
      match Tag.contextNumber? octet with
      | none => some (none, octet :: rest)
      | some found =>
          if number < found then some (none, octet :: rest)
          else if found = number then do
            let (value, after) ← decoder (octet :: rest)
            return (some value, after)
          else do
            let (_, after) ← decodeElement (octet :: rest)
            decodeFieldAfter number decoder count after

/-- Reads the context-specific field `number` if it comes next among such fields. -/
def decodeField {α : Type} (number : Nat) (decoder : Decoder α) : Decoder (Option α) :=
  fun octets => decodeFieldAfter number decoder octets.length octets

/-- Reads the field `number`, if it comes next, as an element around another. -/
def decodeWrapped {α : Type} (number : Nat) (decoder : Decoder α) : Decoder (Option α) :=
  decodeField number (decodeNested (Tag.constructedField number) decoder)

/-- Reads a list of values that fill an element of a given type. -/
def decodeList {α : Type} (tag : Tag) (decoder : Decoder α) : Decoder (List α) := fun octets => do
  let (content, rest) ← decodeTagged tag octets
  let values ← decodeAll decoder content
  return (values, rest)

/-- An element kept as it was written, without a look at its content. -/
structure Any where
  tag : Tag
  content : Octets
deriving DecidableEq

namespace Any

/-- The element as octets. -/
def encode (any : Any) : Octets :=
  Der.encode any.tag any.content

/-- Reads any element. -/
def decode : Decoder Any := fun octets => do
  let ((tag, content), rest) ← decodeElement octets
  return (⟨tag, content⟩, rest)

/-- The element without content that stands for nothing. -/
def null : Any := ⟨Tag.null, []⟩

end Any

end CertAuthority.Der
