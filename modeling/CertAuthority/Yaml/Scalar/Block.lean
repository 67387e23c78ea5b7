import CertAuthority.Octets
import CertAuthority.Yaml.Glyph

/-!
# Block scalars

A block scalar is made of whole lines that are indented alike.  Its header says
whether line ends are kept or folded, how it is indented, and what becomes of
the line ends after the last line.
-/

namespace CertAuthority.Yaml

/-- What becomes of the line ends after the last line of a block scalar. -/
inductive Chomping where
  /-- None is kept. -/
  | strip
  /-- The first is kept. -/
  | clip
  /-- All are kept. -/
  | keep
deriving DecidableEq

/-- What the first line of a block scalar says. -/
structure BlockHeader where
  folded : Bool
  chomping : Chomping
  /-- Indentation relative to what is around, found from the text if missing. -/
  indentation : Option Nat
deriving DecidableEq

namespace BlockHeader

/-- The sign for a way of chomping. -/
def chomping? (char : Char) : Option Chomping :=
  if char = '+' then some .keep else if char = '-' then some .strip else none

/-- Reads a digit of indentation, which may be missing but not zero. -/
def readIndentation? : List Glyph → Option (Option Nat × List Glyph)
  | [] => some (none, [])
  | glyph :: rest =>
      if glyph.char = '0' then none
      else if glyph.char.isDigit then some (some (glyph.char.toNat - '0'.toNat), rest)
      else some (none, glyph :: rest)

/-- Reads a sign for chomping, which may be missing. -/
def readChomping : List Glyph → Chomping × List Glyph
  | [] => (.clip, [])
  | glyph :: rest =>
      match chomping? glyph.char with
      | some chomping => (chomping, rest)
      | none => (.clip, glyph :: rest)

/-- Reads the header after its mark: a sign and a digit in either order, then perhaps a
comment. -/
def read? (folded : Bool) (glyphs : List Glyph) : Option (BlockHeader × List Glyph) := do
  let (chomping, rest) := readChomping glyphs
  let (indentation, rest) ← readIndentation? rest
  let (chomping, rest) :=
    if chomping = .clip ∧ indentation.isSome then readChomping rest else (chomping, rest)
  let rest ← Glyph.nextLine? rest
  return (⟨folded, chomping, indentation⟩, rest)

end BlockHeader

namespace BlockScalar

/-- What was read of a block scalar. -/
structure Progress where
  /-- The text, last character first. -/
  text : List Char
  /-- The end of the last line. -/
  lineEnd : Option Char
  /-- Ends of empty lines after it, last first. -/
  emptyLines : List Char
  /-- Whether the last line begins with a blank. -/
  blankStart : Bool

namespace Progress

/-- Nothing. -/
def start : Progress := ⟨[], none, [], false⟩

/-- Counts one more empty line. -/
def addEmptyLine (progress : Progress) (char : Char) : Progress :=
  { progress with emptyLines := char :: progress.emptyLines }

/-- Begins a line: the line ends before it are written, or folded if it and the line before
it begin without blanks. -/
def beginLine (progress : Progress) (folded blankStart : Bool) : Progress :=
  let separator :=
    if folded && progress.lineEnd == some '\n' && !progress.blankStart && !blankStart then
      if progress.emptyLines = [] then [' '] else []
    else progress.lineEnd.toList
  { text := progress.emptyLines ++ separator ++ progress.text
    lineEnd := none
    emptyLines := []
    blankStart }

/-- Adds a character to the line. -/
def addChar (progress : Progress) (char : Char) : Progress :=
  { progress with text := char :: progress.text }

/-- The text with the line ends after it that are kept. -/
def finish (progress : Progress) (chomping : Chomping) : List Char :=
  match chomping with
  | .strip => progress.text.reverse
  | .clip => (progress.lineEnd.toList ++ progress.text).reverse
  | .keep => (progress.emptyLines ++ progress.lineEnd.toList ++ progress.text).reverse

end Progress

/-- How a block scalar is indented. -/
inductive Indentation where
  | known (column : Nat)
  /-- As its first line that is not empty, but at least to `least` and to `widest`, the
  widest empty line so far. -/
  | found (least widest : Nat)

/-- Whether a space at a column belongs to the indentation. -/
def Indentation.covers (column : Nat) : Indentation → Bool
  | known limit => column < limit
  | found _ _ => true

/-- The indentation after an empty line. -/
def Indentation.widen (column : Nat) : Indentation → Indentation
  | known limit => known limit
  | found least widest => found least (max widest column)

/-- The indentation once a line begins at a column. -/
def Indentation.settle (column : Nat) : Indentation → Nat
  | known limit => limit
  | found least widest => max least (max widest column)

/-- Reads the lines of a block scalar; `inLine` within one of them. -/
def readLines (header : BlockHeader) (indentation : Indentation) (inLine : Bool)
    (progress : Progress) : List Glyph → Option (List Char × List Glyph)
  | [] => some (progress.finish header.chomping, [])
  | glyph :: rest =>
      if inLine then
        if isLineEnd glyph.char then
          readLines header indentation false { progress with lineEnd := some glyph.char } rest
        else readLines header indentation true (progress.addChar glyph.char) rest
      else if indentation.covers glyph.column && isBlank glyph.char then
        if glyph.char = ' ' then readLines header indentation false progress rest else none
      else if isLineEnd glyph.char then
        readLines header (indentation.widen glyph.column) false
          (progress.addEmptyLine glyph.char) rest
      else
        let column := indentation.settle glyph.column
        if glyph.column = column then
          readLines header (.known column) true
            ((progress.beginLine header.folded (isBlank glyph.char)).addChar glyph.char) rest
        else some (progress.finish header.chomping, glyph :: rest)

/-- Reads a block scalar after its mark.  Lines around it begin at `margin`, and its own at
`least` or further right. -/
def read? (folded : Bool) (margin least : Nat) (glyphs : List Glyph) :
    Option (List Char × List Glyph) := do
  let (header, rest) ← BlockHeader.read? folded glyphs
  let indentation :=
    match header.indentation with
    | some width => Indentation.known (margin + width)
    | none => .found (max least 1) 0
  readLines header indentation false .start rest

end BlockScalar

end CertAuthority.Yaml
