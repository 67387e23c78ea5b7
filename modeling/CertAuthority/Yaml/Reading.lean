import CertAuthority.Yaml.Document
import CertAuthority.Yaml.Integer
import CertAuthority.Yaml.Lexing

/-!
# Values in documents

Reading typed values from the nodes of a document.  Aliases are followed where
a value is needed and passed over elsewhere; a document in which they are
followed too often for its size is refused.
-/

namespace CertAuthority.Yaml

/-- What reading a value needs to know of its document. -/
structure Source where
  /-- The marked nodes, the last one first. -/
  marked : List (Nat × Node)
  /-- How often aliases may be followed. -/
  limit : Nat

/-- A step of reading values, which counts the aliases that were followed. -/
abbrev ValueReader := ReaderT Source (StateT Nat Option)

namespace ValueReader

/-- The node itself, or the one that it stands for. -/
def follow : Node → ValueReader Node
  | .reference mark => do
      let source ← read
      let followed ← modifyGet fun count => (count + 1, count + 1)
      if source.limit < followed then failure else liftM (source.marked.lookup mark)
  | node => return node

/-- Whether a text means that there is no value. -/
def isNull (text : List Char) : Bool :=
  ["null", "Null", "NULL", "~"].any (·.toList = text)

/-- The tag of missing values. -/
def nullTag : Octets := Text.utf8 "tag:yaml.org,2002:null"

/-- The tag of integers. -/
def integerTag : Octets := Text.utf8 "tag:yaml.org,2002:int"

/-- Whether there is a value.  Quoted text is one, and so is plain text with a tag of
another kind. -/
def isPresent : Node → ValueReader Bool
  | .scalar _ (some tag) .plain text =>
      if tag = nullTag then (if isNull text then return false else failure) else return true
  | .scalar _ none .plain text => return !text.isEmpty && !isNull text
  | _ => return true

/-- Reads a value that may be missing. -/
def optional {α : Type} (value : Node → ValueReader α) (node : Node) : ValueReader (Option α) := do
  let node ← follow node
  if ← isPresent node then return some (← value node) else return none

/-- Reads the text of a scalar, whatever its tag. -/
def text (node : Node) : ValueReader String := do
  match ← follow node with
  | .scalar _ _ _ text => return String.ofList text
  | _ => failure

/-- Reads an integer, written in plain form or tagged as one in literal form. -/
def integer (node : Node) : ValueReader Int := do
  match ← follow node with
  | .scalar _ tag style text =>
      if style = .plain ∨ (style = .literal ∧ tag = some integerTag) then liftM (integer? text)
      else failure
  | _ => failure

/-- Whether nothing is written. -/
def isAbsent : Node → Bool
  | .scalar _ _ .plain [] => true
  | _ => false

/-- Reads a sequence, which is empty if nothing is written. -/
def list {α : Type} (value : Node → ValueReader α) (node : Node) : ValueReader (List α) := do
  match ← follow node with
  | .sequence _ items => items.mapM value
  | node => if isAbsent node then return [] else failure

/-- The values of a mapping under given names, none of which may be repeated; the others are
passed over.  There are none if nothing is written. -/
def fields (names : List String) (node : Node) : ValueReader (List (String × Node)) := do
  match ← follow node with
  | .mapping _ entries =>
      let named ← entries.mapM fun (key, value) => return (← text key, value)
      let known := named.filter (names.contains ·.1)
      if (known.map (·.1)).Nodup then return known else failure
  | node => if isAbsent node then return [] else failure

/-- Reads the value under a name, which may be missing in either way. -/
def field {α : Type} (known : List (String × Node)) (name : String)
    (value : Node → ValueReader α) : ValueReader (Option α) :=
  match known.lookup name with
  | none => return none
  | some node => optional value node

end ValueReader

/-- Reads the value of a document. -/
def readOctets? {α : Type} (value : Node → ValueReader α) (octets : Octets) : Option α := do
  let glyphs ← Glyph.ofOctets? octets
  let root ← readDocument? (← tokens? glyphs)
  let (result, _) ← ((value root).run ⟨root.marked.reverse, 100 * root.size⟩).run 0
  return result

end CertAuthority.Yaml
