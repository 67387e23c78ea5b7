import CertAuthority.Text.Utf8

/-!
# Characters of a document

Where a character stands matters as much as which one it is: nesting is shown
by columns.  `Glyph.ofOctets?` reads a document as characters with their line
and column, after all of them were found to be allowed and the different line
ends were made one.
-/

namespace CertAuthority.Yaml

/-- Whether a character may stand in a document. -/
def isAllowed (char : Char) : Bool :=
  let code := char.toNat
  code == 0x09 || code == 0x0a || code == 0x0d || (0x20 ≤ code && code ≤ 0x7e) || code == 0x85 ||
    (0xa0 ≤ code && code ≤ 0xfffd) || 0x10000 ≤ code

/-- A space or a tab. -/
def isBlank (char : Char) : Bool :=
  char == ' ' || char == '\t'

/-- Whether a character ends a line, line ends having been made one. -/
def isLineEnd (char : Char) : Bool :=
  char == '\n' || char == '\u2028' || char == '\u2029'

/-- Whether a character may be in the name of an anchor, a directive or a tag handle. -/
def isNameChar (char : Char) : Bool :=
  char.isAlphanum || char == '-' || char == '_'

/-- Writes the ends of lines as line feeds, but for the two separators. -/
def unifyLineEnds : List Char → List Char
  | '\r' :: '\n' :: rest => '\n' :: unifyLineEnds rest
  | char :: rest => (if char = '\r' ∨ char = '\u0085' then '\n' else char) :: unifyLineEnds rest
  | [] => []

/-- A character with its line and column, both counted from zero. -/
structure Glyph where
  char : Char
  line : Nat
  column : Nat
deriving DecidableEq

namespace Glyph

/-- The characters of a text that begins at a place. -/
def place (line column : Nat) : List Char → List Glyph
  | [] => []
  | char :: rest =>
      ⟨char, line, column⟩ ::
        if isLineEnd char then place (line + 1) 0 rest else place line (column + 1) rest

@[simp]
theorem map_char_place (line column : Nat) (text : List Char) :
    (place line column text).map Glyph.char = text := by
  induction text generalizing line column with
  | nil => rfl
  | cons char rest continued => simp only [place]; split <;> simp [continued]

/-- The characters of a document, if it is well-formed UTF-8 without forbidden characters. -/
def ofOctets? (octets : Octets) : Option (List Glyph) := do
  let text ← Text.ofUtf8? octets
  if text.toList.all isAllowed then some (place 0 0 (unifyLineEnds text.toList)) else none

/-- Whether no word goes on here: a blank, the end of the line or of the document. -/
def atWordEnd : List Glyph → Bool
  | [] => true
  | glyph :: _ => isBlank glyph.char || isLineEnd glyph.char

/-- Whether the next character is a given one. -/
def startsWith (char : Char) : List Glyph → Bool
  | [] => false
  | glyph :: _ => glyph.char == char

/-- Whether a line begins here with a mark between documents. -/
def atDocumentMark : List Glyph → Bool
  | first :: second :: third :: rest =>
      first.column == 0 && (first.char == '-' || first.char == '.') &&
        second.char == first.char && third.char == first.char && atWordEnd rest
  | _ => false

/-- The characters as long as they satisfy a condition, and what follows. -/
def spanChars (accept : Char → Bool) (glyphs : List Glyph) : List Char × List Glyph :=
  ((glyphs.takeWhile (accept ·.char)).map Glyph.char, glyphs.dropWhile (accept ·.char))

/-- What follows the blanks. -/
def skipBlanks (glyphs : List Glyph) : List Glyph :=
  glyphs.dropWhile (isBlank ·.char)

/-- The next line, if nothing but blanks and a comment is left on this one. -/
def nextLine? (glyphs : List Glyph) : Option (List Glyph) :=
  let rest := skipBlanks glyphs
  let rest := if startsWith '#' rest then rest.dropWhile (!isLineEnd ·.char) else rest
  match rest with
  | [] => some []
  | glyph :: rest => if isLineEnd glyph.char then some rest else none

end Glyph

end CertAuthority.Yaml
