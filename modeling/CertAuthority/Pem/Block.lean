import CertAuthority.Base64
import CertAuthority.Text.Utf8

/-!
# Text blocks for octets

Octets are stored in text files as base64 between two boundary lines that name
their kind.  `Pem.encode` writes a block with lines of 64 characters.
-/

namespace CertAuthority.Pem

/-- The end of a boundary. -/
def dashes : Octets := Text.utf8 "-----"

/-- What opens the first boundary. -/
def beginMark : Octets := Text.utf8 "-----BEGIN "

/-- What opens the last boundary. -/
def endMark : Octets := Text.utf8 "-----END "

/-- The character that ends a line. -/
def newline : UInt8 := 0x0a

/-- Characters of a full line of base64. -/
def lineWidth : Nat := 64

/-- Breaks characters into full lines and a last one that may be shorter; `count` bounds the
lines. -/
def wrapLines : (count : Nat) → Octets → Octets
  | _, [] => []
  | 0, octets => octets ++ [newline]
  | count + 1, octets =>
      octets.take lineWidth ++ newline :: wrapLines count (octets.drop lineWidth)

/-- Writes octets as a block of the given kind. -/
def encode (label : String) (octets : Octets) : Octets :=
  let characters := Base64.encode octets
  beginMark ++ Text.utf8 label ++ dashes ++ newline ::
    (wrapLines characters.length characters ++
      (endMark ++ Text.utf8 label ++ dashes ++ [newline]))

end CertAuthority.Pem
