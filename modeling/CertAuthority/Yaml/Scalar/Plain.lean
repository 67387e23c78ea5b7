import CertAuthority.Yaml.Scalar.Gap

/-!
# Plain scalars

A plain scalar is text without quotes.  It ends before a colon that ends a
word, before a comment, before a line that is not indented enough, and within
flow collections before their punctuation.
-/

namespace CertAuthority.Yaml

/-- A plain scalar that was read. -/
structure PlainScalar where
  text : List Char
  /-- Whether the end of a line was passed after the text. -/
  endsLine : Bool
  rest : List Glyph

namespace PlainScalar

/-- Punctuation of flow collections. -/
def isFlowMark (char : Char) : Bool :=
  [',', '[', ']', '\x7b', '\x7d'].contains char

/-- Whether a word cannot go on here. -/
def endsHere (flow : Bool) (glyph : Glyph) (rest : List Glyph) : Bool :=
  (glyph.char == ':' && Glyph.atWordEnd rest) || (flow && isFlowMark glyph.char)

/-- Whether no further word of a scalar begins here: after a gap, text has to stand at
`column` or further right, and a comment or a new document ends it. -/
def endsBefore (flow : Bool) (column : Nat) (glyph : Glyph) (rest : List Glyph) : Bool :=
  (!flow && glyph.column < column) || Glyph.atDocumentMark (glyph :: rest) || glyph.char == '#'

/-- Whether a colon stands before punctuation in a flow collection. -/
def isMisplacedColon (flow : Bool) (glyph : Glyph) (rest : List Glyph) : Bool :=
  flow && glyph.char == ':' &&
    match rest with
    | [] => false
    | next :: _ => isFlowMark next.char || next.char == '?'

/-- Reads on after text, last character first, and a gap. -/
def readOn (flow : Bool) (column : Nat) (text : List Char) (gap : Gap) :
    List Glyph → Option PlainScalar
  | [] => some ⟨text.reverse, gap.endsLine, []⟩
  | glyph :: rest =>
      if isBlank glyph.char then
        if gap.endsLine && glyph.char == '\t' && glyph.column < column then none
        else readOn flow column text (gap.addBlank glyph.char) rest
      else if isLineEnd glyph.char then readOn flow column text (gap.addLineEnd glyph.char) rest
      else if !gap.isEmpty && endsBefore flow column glyph rest then
        some ⟨text.reverse, gap.endsLine, glyph :: rest⟩
      else if isMisplacedColon flow glyph rest then none
      else if endsHere flow glyph rest then some ⟨text.reverse, gap.endsLine, glyph :: rest⟩
      else readOn flow column (glyph.char :: (gap.fold ++ text)) Gap.empty rest

/-- Reads a plain scalar whose further lines begin at `column` or further right. -/
def read? (flow : Bool) (column : Nat) (glyphs : List Glyph) : Option PlainScalar :=
  readOn flow column [] Gap.empty glyphs

end PlainScalar

end CertAuthority.Yaml
