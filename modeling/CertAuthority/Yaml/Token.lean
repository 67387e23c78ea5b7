import CertAuthority.Octets

/-!
# Tokens of a document

A document is a row of tokens.  Some are written, such as commas, names and
scalars; others mark where nesting by columns begins and ends.
-/

namespace CertAuthority.Yaml

/-- How a scalar is written. -/
inductive ScalarStyle where
  | plain
  | singleQuoted
  | doubleQuoted
  | literal
  | folded
deriving DecidableEq

/-- One token of a document. -/
inductive Token where
  /-- States the version of the format. -/
  | version
  /-- Makes a handle stand for the beginning of tags. -/
  | shorthand (handle : List Char) (expansion : Octets)
  | documentStart
  | documentEnd
  | blockSequenceStart
  | blockMappingStart
  | blockEnd
  | flowSequenceStart
  | flowSequenceEnd
  | flowMappingStart
  | flowMappingEnd
  /-- Begins an item of a sequence in block form. -/
  | blockEntry
  /-- Parts the items of a collection in flow form. -/
  | flowEntry
  | key
  | value
  /-- An alias. -/
  | reference (name : List Char)
  | anchor (name : List Char)
  | tag (handle : List Char) (suffix : Octets)
  | scalar (style : ScalarStyle) (text : List Char)
deriving DecidableEq

end CertAuthority.Yaml
