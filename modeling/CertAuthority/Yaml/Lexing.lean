import CertAuthority.Yaml.Layout
import CertAuthority.Yaml.Property
import CertAuthority.Yaml.Scalar.Block
import CertAuthority.Yaml.Scalar.Plain
import CertAuthority.Yaml.Scalar.Quoted

/-!
# From characters to tokens

The first character of a token tells its kind, together with what is known of
the layout: marks of items, keys and values need a blank after them, unless a
flow collection is open.  `tokens?` reads a document to its end.
-/

namespace CertAuthority.Yaml

namespace Layout

/-- An alias, a part of a node's properties or a scalar, where a key may begin. -/
def pushContent (layout : Layout) (glyph : Glyph) (read : Option (Token × List Glyph)) :
    Option (Layout × List Glyph) := do
  let layout ← layout.noteKey glyph
  let (token, rest) ← read
  return ((layout.push token).allowKey false, rest)

/-- A plain scalar; a key may begin after it if it ended with a line. -/
def pushPlain (layout : Layout) (glyph : Glyph) (glyphs : List Glyph) :
    Option (Layout × List Glyph) := do
  let noted ← layout.noteKey glyph
  let scalar ← PlainScalar.read? layout.inFlow layout.contentColumn glyphs
  return ((noted.push (.scalar .plain scalar.text)).allowKey scalar.endsLine, scalar.rest)

/-- A block scalar, after its mark. -/
def pushBlockScalar (layout : Layout) (style : ScalarStyle) (glyphs : List Glyph) :
    Option (Layout × List Glyph) := do
  let layout ← layout.dropKey
  let (text, rest) ← BlockScalar.read? (style == .folded) (layout.blocks.headD 0)
    layout.contentColumn glyphs
  return ((layout.push (.scalar style text)).allowKey true, rest)

/-- Whether a plain scalar may begin with a character that has another meaning elsewhere. -/
def beginsPlain (flow : Bool) (glyph : Glyph) (rest : List Glyph) : Bool :=
  let blankNext := rest.head?.any (isBlank ·.char)
  if glyph.char = '-' then !blankNext
  else if glyph.char = '?' ∨ glyph.char = ':' then !flow && !Glyph.atWordEnd rest
  else !(isBlank glyph.char || isLineEnd glyph.char ||
    ",[]\x7b\x7d#&*!|>'\"%@\x60".toList.contains glyph.char)

/-- Reads the name of a token that has one. -/
def readNamed? (token : List Char → Token) (glyphs : List Glyph) : Option (Token × List Glyph) :=
  (readAnchorName? glyphs).map fun (name, rest) => (token name, rest)

/-- Reads a scalar in single quotes, after the first. -/
def readSingleQuoted? (glyphs : List Glyph) : Option (Token × List Glyph) :=
  (QuotedScalar.readSingle [] Gap.empty glyphs).map fun (text, rest) =>
    (.scalar .singleQuoted text, rest)

/-- Reads a scalar in double quotes, after the first. -/
def readDoubleQuoted? (glyphs : List Glyph) : Option (Token × List Glyph) :=
  (QuotedScalar.readDouble [] Gap.empty none glyphs).map fun (text, rest) =>
    (.scalar .doubleQuoted text, rest)

/-- Reads the token that begins with a character. -/
def readToken (layout : Layout) (glyph : Glyph) (rest : List Glyph) :
    Option (Layout × List Glyph) :=
  let flow := layout.inFlow
  let here := glyph :: rest
  let endsWord := Glyph.atWordEnd rest
  if glyph.char = '%' ∧ glyph.column = 0 then do
    let (token, rest) ← readDirective? rest
    return (← layout.markDocument token, rest)
  else if Glyph.atDocumentMark here then do
    let token := if glyph.char = '-' then Token.documentStart else .documentEnd
    return (← layout.markDocument token, rest.drop 2)
  else if glyph.char = '[' then do return (← layout.openFlow glyph .flowSequenceStart, rest)
  else if glyph.char = '\x7b' then do return (← layout.openFlow glyph .flowMappingStart, rest)
  else if glyph.char = ']' then do return (← layout.closeFlow .flowSequenceEnd, rest)
  else if glyph.char = '\x7d' then do return (← layout.closeFlow .flowMappingEnd, rest)
  else if glyph.char = ',' then do return (← layout.pushFlowEntry, rest)
  else if glyph.char = '-' ∧ endsWord then do return (← layout.pushBlockEntry glyph, rest)
  else if glyph.char = '?' ∧ (flow ∨ endsWord) then do return (← layout.pushKey glyph, rest)
  else if glyph.char = ':' ∧ (flow ∨ endsWord) then do return (← layout.pushValue glyph, rest)
  else if glyph.char = '*' then layout.pushContent glyph (readNamed? .reference rest)
  else if glyph.char = '&' then layout.pushContent glyph (readNamed? .anchor rest)
  else if glyph.char = '!' then layout.pushContent glyph (readTag? flow rest)
  else if glyph.char = '|' ∧ ¬flow then layout.pushBlockScalar .literal rest
  else if glyph.char = '>' ∧ ¬flow then layout.pushBlockScalar .folded rest
  else if glyph.char = '\'' then layout.pushContent glyph (readSingleQuoted? rest)
  else if glyph.char = '"' then layout.pushContent glyph (readDoubleQuoted? rest)
  else if beginsPlain flow glyph rest then layout.pushPlain glyph here
  else none

/-- Skips white space and comments before a token.  Tabs may stand only where no key may
begin, and a new line allows one outside flow collections. -/
def skipToToken (flow : Bool) (allowed inComment : Bool) : List Glyph → Bool × List Glyph
  | [] => (allowed, [])
  | glyph :: rest =>
      if isLineEnd glyph.char then skipToToken flow (allowed || !flow) false rest
      else if inComment then skipToToken flow allowed true rest
      else if glyph.char = '#' then skipToToken flow allowed true rest
      else if glyph.char = ' ' ∨ (glyph.char = '\t' ∧ (flow ∨ !allowed)) ∨
          (glyph.char = '\ufeff' ∧ glyph.column = 0) then
        skipToToken flow allowed false rest
      else (allowed, glyph :: rest)

/-- The tokens at the end of a document. -/
def finish (layout : Layout) : Option (List Token) := do
  let layout ← layout.closeAllBlocks.dropKey
  return layout.tokens.reverse

/-- Reads on to the end, in at most `fuel` tokens. -/
def readAll : (fuel : Nat) → Layout → List Glyph → Option (List Token)
  | 0, _, _ => none
  | fuel + 1, layout, glyphs =>
      let (allowed, rest) := skipToToken layout.inFlow layout.keyAllowed false glyphs
      let layout := layout.allowKey allowed
      match rest with
      | [] => layout.finish
      | glyph :: rest => do
          let layout ← layout.refreshKeys glyph
          let (layout, rest) ← (layout.closeBlocks glyph.column).readToken glyph rest
          readAll fuel layout rest

end Layout

/-- The tokens of a document.  Every token has a character of its own, so that one step for
each character is enough. -/
def tokens? (glyphs : List Glyph) : Option (List Token) :=
  Layout.readAll (glyphs.length + 1) .start glyphs

end CertAuthority.Yaml
