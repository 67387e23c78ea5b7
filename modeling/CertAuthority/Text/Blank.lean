/-!
# Blank characters

The characters with the Unicode property White_Space, and a text without those
at its two ends.
-/

namespace CertAuthority.Text

/-- Whether a character has the property White_Space. -/
def isBlank (char : Char) : Bool :=
  let code := char.toNat
  (0x09 ≤ code && code ≤ 0x0d) || code == 0x20 || code == 0x85 || code == 0xa0 ||
    code == 0x1680 || (0x2000 ≤ code && code ≤ 0x200a) || code == 0x2028 || code == 0x2029 ||
    code == 0x202f || code == 0x205f || code == 0x3000

/-- A list without blank characters at its two ends. -/
def trimChars (chars : List Char) : List Char :=
  ((chars.dropWhile isBlank).reverse.dropWhile isBlank).reverse

/-- A text without blank characters at its two ends. -/
def trim (text : String) : String :=
  String.ofList (trimChars text.toList)

end CertAuthority.Text
