import CertAuthority.Text.Utf8
import CertAuthority.X509.Name

/-!
# General names

The alternative names that certificates carry.  Names of hosts, mailboxes and
resources and network addresses are kept; a name of another kind is checked for
its form and kept as the element it is.
-/

namespace CertAuthority

/-- Whether a character may be in a printable string. -/
def isPrintable (octet : UInt8) : Bool :=
  (0x41 ≤ octet && octet ≤ 0x5a) || (0x61 ≤ octet && octet ≤ 0x7a) ||
    (0x30 ≤ octet && octet ≤ 0x39) ||
    [0x20, 0x27, 0x28, 0x29, 0x2b, 0x2c, 0x2d, 0x2e, 0x2f, 0x3a, 0x3d, 0x3f].contains octet

namespace X509

open Der (Any Decoder Oid)

/-- An alternative name of a certificate holder. -/
inductive GeneralName where
  | email (name : String)
  | dns (name : String)
  | uri (name : String)
  | address (octets : Octets)
  | other (element : Any)
deriving DecidableEq

namespace GeneralName

/-- The name as octets. -/
def encode : GeneralName → Octets
  | email name => Der.encode (Der.Tag.field 1) (Text.utf8 name)
  | dns name => Der.encode (Der.Tag.field 2) (Text.utf8 name)
  | uri name => Der.encode (Der.Tag.field 6) (Text.utf8 name)
  | address octets => Der.encode (Der.Tag.field 7) octets
  | other element => element.encode

/-- A text of seven-bit characters. -/
def asciiText? (octets : Octets) : Option String :=
  if Text.isAscii octets then Text.ofUtf8? octets else none

/-- Reads a text in one of the string types of directories. -/
def decodeDirectoryText : Decoder Octets := fun octets => do
  let ((tag, content), rest) ← Der.decodeElement octets
  let valid :=
    if tag = Der.Tag.printableString then content.all isPrintable
    else if tag = Der.Tag.teletexString then Text.isAscii content
    else tag = Der.Tag.utf8String && (Text.ofUtf8? content).isSome
  if valid then return (content, rest) else none

/-- Reads a name that is told by an identifier: the identifier, and a field around any element. -/
def decodeOtherName : Decoder (Oid × Any) := fun octets => do
  let (oid, rest) ← Oid.decode octets
  let (value, rest) ← Der.decodeNested (Der.Tag.constructedField 0) Any.decode rest
  return ((oid, value), rest)

/-- Reads a party name: an optional assigner and the name. -/
def decodePartyName : Decoder (Option Octets × Octets) := fun octets => do
  let (assigner, rest) ← Der.decodeWrapped 0 decodeDirectoryText octets
  let (name, rest) ← Der.decodeNested (Der.Tag.constructedField 1) decodeDirectoryText rest
  return ((assigner, name), rest)

/-- Whether an element is a name of one of the kinds that are not kept apart. -/
def isOther (element : Any) : Bool :=
  let content := element.content
  if element.tag = Der.Tag.constructedField 0 then (Der.complete decodeOtherName content).isSome
  else if element.tag = Der.Tag.constructedField 4 then (Name.ofOctets? content).isSome
  else if element.tag = Der.Tag.constructedField 5 then
    (Der.complete decodePartyName content).isSome
  else element.tag = Der.Tag.field 8 && (Oid.ofContent? content).isSome

/-- The name that an element is. -/
def ofElement? (element : Any) : Option GeneralName :=
  let content := element.content
  if element.tag = Der.Tag.field 1 then (asciiText? content).map email
  else if element.tag = Der.Tag.field 2 then (asciiText? content).map dns
  else if element.tag = Der.Tag.field 6 then (asciiText? content).map uri
  else if element.tag = Der.Tag.field 7 then some (address content)
  else if isOther element then some (other element)
  else none

/-- Reads a name. -/
def decode : Decoder GeneralName := fun octets => do
  let (element, rest) ← Any.decode octets
  let name ← ofElement? element
  return (name, rest)

/-- A list of names as octets. -/
def encodeList (names : List GeneralName) : Octets :=
  Der.encode Der.Tag.sequence (names.flatMap encode)

/-- Reads a list of names that fills the octets. -/
def listOfOctets? (octets : Octets) : Option (List GeneralName) :=
  Der.complete (Der.decodeList Der.Tag.sequence decode) octets

end GeneralName

end X509

end CertAuthority
