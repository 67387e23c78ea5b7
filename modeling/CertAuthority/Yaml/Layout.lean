import CertAuthority.Yaml.Glyph
import CertAuthority.Yaml.Token

/-!
# Layout of a document

Blocks are nested by columns, and a mapping begins with its first key, which
shows only by the colon after it.  `Layout` is what has to be known while a
document is read from left to right: the open blocks, the open flow
collections, and where keys may have begun.  Blocks and keys become tokens of
their own.
-/

namespace CertAuthority.Yaml

/-- A place where a key may have begun. -/
structure KeyStart where
  /-- Whether nothing but a key can stand there. -/
  required : Bool
  /-- How many tokens are before it. -/
  position : Nat
  line : Nat
  column : Nat

/-- Whether a place is too far back for a key that ends here: keys end on their line, within
1024 characters. -/
def KeyStart.isStale (start : KeyStart) (glyph : Glyph) : Bool :=
  start.line < glyph.line || start.column + 1024 < glyph.column

/-- What is known at a place of a document. -/
structure Layout where
  /-- The tokens so far, last first. -/
  tokens : List Token
  /-- Columns of the open blocks, innermost first. -/
  blocks : List Nat
  /-- Whether a key may begin at the next token. -/
  keyAllowed : Bool
  /-- Where a key may have begun within the innermost collection. -/
  key : Option KeyStart
  /-- The same for the collections around it, one for each open flow collection. -/
  outerKeys : List (Option KeyStart)

namespace Layout

/-- The start of a document. -/
def start : Layout := ⟨[], [], true, none, []⟩

/-- Whether a flow collection is open. -/
def inFlow (layout : Layout) : Bool :=
  !layout.outerKeys.isEmpty

/-- The least column of text within the innermost block. -/
def contentColumn (layout : Layout) : Nat :=
  match layout.blocks with
  | [] => 0
  | column :: _ => column + 1

/-- Adds a token. -/
def push (layout : Layout) (token : Token) : Layout :=
  { layout with tokens := token :: layout.tokens }

/-- Adds tokens before which there are `position` others. -/
def insert (layout : Layout) (position : Nat) (tokens : List Token) : Layout :=
  let later := layout.tokens.length - position
  { layout with
    tokens := layout.tokens.take later ++ tokens.reverse ++ layout.tokens.drop later }

/-- Whether a key may begin at the next token. -/
def allowKey (layout : Layout) (allowed : Bool) : Layout :=
  { layout with keyAllowed := allowed }

/-- Gives up the key that may have begun, unless it is required. -/
def dropKey (layout : Layout) : Option Layout :=
  match layout.key with
  | none => some layout
  | some start => if start.required then none else some { layout with key := none }

/-- Notes that a key may begin at a place. -/
def noteKey (layout : Layout) (glyph : Glyph) : Option Layout :=
  if layout.keyAllowed then do
    let layout ← layout.dropKey
    return { layout with
      key := some
        { required := !layout.inFlow && layout.blocks.head? == some glyph.column
          position := layout.tokens.length
          line := glyph.line
          column := glyph.column } }
  else some layout

/-- Gives up one key if it is too far back. -/
def refreshKey (glyph : Glyph) : Option KeyStart → Option (Option KeyStart)
  | none => some none
  | some start =>
      if start.isStale glyph then (if start.required then none else some none)
      else some (some start)

/-- Gives up all keys that are too far back. -/
def refreshKeys (layout : Layout) (glyph : Glyph) : Option Layout := do
  let key ← refreshKey glyph layout.key
  let outerKeys ← layout.outerKeys.mapM (refreshKey glyph)
  return { layout with key, outerKeys }

/-- Closes the blocks that are further right than a column. -/
def closeBlocks (layout : Layout) (column : Nat) : Layout :=
  if layout.inFlow then layout
  else
    { layout with
      tokens := List.replicate (layout.blocks.takeWhile (column < ·)).length .blockEnd ++
        layout.tokens
      blocks := layout.blocks.dropWhile (column < ·) }

/-- Closes all blocks. -/
def closeAllBlocks (layout : Layout) : Layout :=
  if layout.inFlow then layout
  else
    { layout with
      tokens := List.replicate layout.blocks.length .blockEnd ++ layout.tokens
      blocks := [] }

/-- Opens a block at a column if that is further right than the innermost one. -/
def openBlock (layout : Layout) (column : Nat) (token : Token) : Layout :=
  if !layout.inFlow && layout.contentColumn ≤ column then
    { layout.push token with blocks := column :: layout.blocks }
  else layout

/-- A token that begins an item, a key or a value of a block and needs a place where a key
may begin. -/
def beginPart (layout : Layout) (glyph : Glyph) (blockStart : Token) : Option Layout :=
  if layout.inFlow then some layout
  else if layout.keyAllowed then some (layout.openBlock glyph.column blockStart)
  else none

/-- The start of a flow collection, which may itself be a key. -/
def openFlow (layout : Layout) (glyph : Glyph) (token : Token) : Option Layout := do
  let layout ← layout.noteKey glyph
  return { layout.push token with
    keyAllowed := true, key := none, outerKeys := layout.key :: layout.outerKeys }

/-- The end of a flow collection. -/
def closeFlow (layout : Layout) (token : Token) : Option Layout := do
  let layout ← layout.dropKey
  let layout := (layout.push token).allowKey false
  return match layout.outerKeys with
    | [] => layout
    | key :: outerKeys => { layout with key, outerKeys }

/-- A mark between documents or a directive. -/
def markDocument (layout : Layout) (token : Token) : Option Layout := do
  let layout ← layout.closeAllBlocks.dropKey
  return (layout.push token).allowKey false

/-- The comma between items. -/
def pushFlowEntry (layout : Layout) : Option Layout := do
  let layout ← layout.dropKey
  return (layout.push .flowEntry).allowKey true

/-- The mark of an item. -/
def pushBlockEntry (layout : Layout) (glyph : Glyph) : Option Layout := do
  let layout ← layout.beginPart glyph .blockSequenceStart
  let layout ← layout.dropKey
  return (layout.push .blockEntry).allowKey true

/-- The mark of a key. -/
def pushKey (layout : Layout) (glyph : Glyph) : Option Layout := do
  let layout ← layout.beginPart glyph .blockMappingStart
  let layout ← layout.dropKey
  return (layout.push .key).allowKey (!layout.inFlow)

/-- The mark of a value, which makes a key of what stands where one may have begun. -/
def pushValue (layout : Layout) (glyph : Glyph) : Option Layout :=
  match layout.key with
  | some start =>
      let opens := !layout.inFlow && layout.contentColumn ≤ start.column
      let layout := layout.insert start.position
        (if opens then [.blockMappingStart, .key] else [.key])
      some
        { layout.push .value with
          blocks := if opens then start.column :: layout.blocks else layout.blocks
          keyAllowed := false
          key := none }
  | none => do
      let layout ← layout.beginPart glyph .blockMappingStart
      return (layout.push .value).allowKey (!layout.inFlow)

end Layout

end CertAuthority.Yaml
