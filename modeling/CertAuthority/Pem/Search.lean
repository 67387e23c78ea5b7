import CertAuthority.Pem.Block
import CertAuthority.Text.Blank

/-!
# The first block of a file

`find?` reads the octets of the first block in a file, wherever it stands and
whatever its kind.  Lines in front of a blank line are header fields, which are
checked for a colon and otherwise passed over.
-/

namespace CertAuthority.Pem

/--
How many octets are read until a marker is complete.  After a mismatch the
comparison starts again with the next octet; the octet that did not match is
not compared with the start of the marker.
-/
def markerEnd? (marker : Octets) : (pending : Octets) → Octets → Option Nat
  | [], _ => some 0
  | _ :: _, [] => none
  | expected :: pending, octet :: octets =>
      (markerEnd? marker (if octet = expected then pending else marker) octets).map (· + 1)

/-- The octets before a marker and those after it. -/
def splitAt? (marker octets : Octets) : Option (Octets × Octets) := do
  let count ← markerEnd? marker marker octets
  return (octets.take (count - marker.length), octets.drop count)

/-- Whether an octet is a space, a tab or ends a line. -/
def isSpace (octet : UInt8) : Bool :=
  octet == 0x20 || octet == 0x0a || octet == 0x0d || octet == 0x09

/-- Separates header fields, which end with a blank line, from what follows them. -/
def splitHeaders (octets : Octets) : Octets × Octets :=
  match splitAt? [0x0a, 0x0a] octets with
  | some (headers, rest) => (headers, rest)
  | none => (splitAt? [0x0d, 0x0a, 0x0d, 0x0a] octets).getD ([], octets)

/-- The lines of a text; the last one need not be ended. -/
def lines : Octets → List Octets
  | [] => []
  | octet :: octets =>
      if octet = newline then [] :: lines octets
      else
        match lines octets with
        | [] => [[octet]]
        | line :: others => (octet :: line) :: others

/-- Whether every line of a text has a colon. -/
def areHeaders (octets : Octets) : Bool :=
  (Text.ofUtf8? octets).isSome && (lines octets).all (·.contains 0x3a)

/-- The octets of base64 text, in which blank characters do not count. -/
def decodeBody? (octets : Octets) : Option Octets := do
  let text ← Text.ofUtf8? octets
  Base64.decode? (Text.utf8 (String.ofList (text.toList.filter fun char => !Text.isBlank char)))

/-- The octets of the first block. -/
def find? (file : Octets) : Option Octets := do
  let (_, rest) ← splitAt? beginMark file
  let (label, rest) ← splitAt? dashes rest
  let (content, rest) ← splitAt? endMark (rest.dropWhile isSpace)
  let (endLabel, _) ← splitAt? dashes rest
  let (headers, body) := splitHeaders content
  if label ≠ [] ∧ label = endLabel ∧ (Text.ofUtf8? label).isSome ∧ areHeaders headers then
    decodeBody? body
  else none

end CertAuthority.Pem
