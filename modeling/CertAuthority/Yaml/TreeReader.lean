import CertAuthority.Yaml.Node

/-!
# Steps of reading nodes

Nodes are read from a row of tokens, with two things to keep in mind: what the
handles of tags stand for, and the anchors so far.  Anchors are numbered as they
appear: each gets the number of different names before it, so that a name that
is used again may share its number with a later one.
-/

namespace CertAuthority.Yaml

/-- What is known while nodes are read. -/
structure TreeState where
  tokens : List Token
  /-- What the handles of tags stand for, first one first. -/
  handles : List (List Char × Octets)
  /-- The number of each anchor. -/
  anchors : List (List Char × Nat)

/-- A step of reading nodes. -/
abbrev TreeReader := StateT TreeState Option

namespace TreeReader

/-- The next token, which is not taken. -/
def peek : TreeReader (Option Token) := do
  return (← get).tokens.head?

/-- Whether the next token is one of some; the end counts as none of them. -/
def atOneOf (tokens : List Token) : TreeReader Bool := do
  return (← peek).any tokens.contains

/-- Takes the next token. -/
def take : TreeReader Unit :=
  modify fun state => { state with tokens := state.tokens.drop 1 }

/-- Takes the next token if it is the given one. -/
def takeIf (token : Token) : TreeReader Bool := do
  if ← atOneOf [token] then
    take
    return true
  else return false

/-- Takes the given token, which has to be there. -/
def require (token : Token) : TreeReader Unit := do
  if ← takeIf token then return () else failure

/-- Numbers an anchor. -/
def defineAnchor (name : List Char) : TreeReader Nat := do
  let state ← get
  let number := state.anchors.length
  set { state with
    anchors := (name, number) :: state.anchors.filter (fun anchor => anchor.1 != name) }
  return number

/-- The number of the anchor that an alias names. -/
def anchorNumber (name : List Char) : TreeReader Nat := do
  let state ← get
  state.anchors.lookup name

/-- A tag in full. -/
def resolveTag (handle : List Char) (suffix : Octets) : TreeReader Octets := do
  if handle = [] then return suffix
  else
    let state ← get
    let expansion ← state.handles.lookup handle
    return expansion ++ suffix

/-- The tag at the next token, if there is one. -/
def takeTag : TreeReader (Option Octets) := do
  match ← peek with
  | some (.tag handle suffix) =>
      take
      return some (← resolveTag handle suffix)
  | _ => return none

/-- The name of the anchor at the next token, if there is one. -/
def takeAnchor : TreeReader (Option (List Char)) := do
  match ← peek with
  | some (.anchor name) =>
      take
      return some name
  | _ => return none

/-- The anchor and the tag of a node, in either order. -/
def takeProperties : TreeReader (Option (List Char) × Option Octets) := do
  match ← takeAnchor with
  | some name => return (some name, ← takeTag)
  | none =>
      let tag ← takeTag
      if tag.isSome then return (← takeAnchor, tag) else return (none, none)

end TreeReader

end CertAuthority.Yaml
