import CertAuthority.Yaml.Token

/-!
# Nodes

A document is a tree of scalars, sequences and mappings.  A node may bear a
mark, by which aliases stand for it elsewhere in the tree.
-/

namespace CertAuthority.Yaml

/-- A value in a document. -/
inductive Node where
  | scalar (mark : Option Nat) (tag : Option Octets) (style : ScalarStyle) (text : List Char)
  | sequence (mark : Option Nat) (items : List Node)
  | mapping (mark : Option Nat) (entries : List (Node × Node))
  /-- An alias: stands for the node that bears a mark. -/
  | reference (mark : Nat)

namespace Node

/-- A scalar of which nothing is written. -/
def absent : Node := scalar none none .plain []

mutual

/-- How many parts a node is written in: one for a scalar, two around a collection. -/
def size : Node → Nat
  | scalar _ _ _ _ => 1
  | sequence _ items => 2 + sizeItems items
  | mapping _ entries => 2 + sizeEntries entries
  | reference _ => 1

/-- The size of the items of a sequence. -/
def sizeItems : List Node → Nat
  | [] => 0
  | item :: items => item.size + sizeItems items

/-- The size of the entries of a mapping. -/
def sizeEntries : List (Node × Node) → Nat
  | [] => 0
  | (key, value) :: entries => key.size + value.size + sizeEntries entries

end

/-- A node with its mark, if it bears one. -/
def withMark (mark : Option Nat) (node : Node) : List (Nat × Node) :=
  mark.toList.map (·, node)

mutual

/-- The nodes that bear marks, in the order in which they begin. -/
def marked : Node → List (Nat × Node)
  | scalar mark tag style text => withMark mark (scalar mark tag style text)
  | sequence mark items => withMark mark (sequence mark items) ++ markedItems items
  | mapping mark entries => withMark mark (mapping mark entries) ++ markedEntries entries
  | reference _ => []

/-- The marked nodes among the items of a sequence. -/
def markedItems : List Node → List (Nat × Node)
  | [] => []
  | item :: items => item.marked ++ markedItems items

/-- The marked nodes among the entries of a mapping. -/
def markedEntries : List (Node × Node) → List (Nat × Node)
  | [] => []
  | (key, value) :: entries => key.marked ++ value.marked ++ markedEntries entries

end

end Node

end CertAuthority.Yaml
