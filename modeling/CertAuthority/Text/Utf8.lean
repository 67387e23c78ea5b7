import CertAuthority.Octets

/-!
# Text as octets

A text is stored in certificates and files as its UTF-8 form.  `utf8` writes
it and `ofUtf8?` reads it back, refusing octets that are not well-formed
UTF-8; `ofUtf8?_utf8` says that reading undoes writing.
-/

namespace CertAuthority.Text

/-- The UTF-8 octets of a text. -/
def utf8 (text : String) : Octets :=
  text.toUTF8.data.toList

/-- The text that the octets encode, if they are well-formed UTF-8. -/
def ofUtf8? (octets : Octets) : Option String :=
  String.fromUTF8? ⟨octets.toArray⟩

theorem ofUtf8?_utf8 (text : String) : ofUtf8? (utf8 text) = some text := by
  have decoded : String.fromUTF8? text.toUTF8 = some text := by
    simp [String.fromUTF8?, String.fromUTF8, String.toUTF8, text.isValidUTF8]
  simpa [ofUtf8?, utf8] using decoded

/-- Whether every octet is a seven-bit character code. -/
def isAscii (octets : Octets) : Bool :=
  octets.all (· < 128)

end CertAuthority.Text
