import CertAuthority.Text.Utf8
import CertAuthority.Yaml.Tree

/-!
# Documents

A stream of tokens is empty or holds one document, with directives and marks
around its node.  `readDocument?` reads that node; a second document is refused.
-/

namespace CertAuthority.Yaml

namespace TreeReader

/-- Reads the directives before a document; none may be repeated. -/
def readDirectives : (fuel : Nat) → (versioned : Bool) → TreeReader Unit
  | 0, _ => failure
  | fuel + 1, versioned => do
      match ← peek with
      | some .version =>
          if versioned then failure
          else
            take
            readDirectives fuel true
      | some (.shorthand handle expansion) =>
          let state ← get
          if (state.handles.lookup handle).isSome then failure
          else
            take
            modify fun state => { state with handles := state.handles ++ [(handle, expansion)] }
            readDirectives fuel versioned
      | _ => return ()

/-- The handles that need no directive. -/
def commonHandles : List (List Char × Octets) :=
  [(['!'], Text.utf8 "!"), (['!', '!'], Text.utf8 "tag:yaml.org,2002:")]

/-- Whether a token cannot begin the content of a document. -/
def endsContent : Token → Bool
  | .version | .shorthand _ _ | .documentStart | .documentEnd => true
  | _ => false

/-- Whether directives or a mark of their own stand before a document. -/
def isExplicit : Token → Bool
  | .version | .shorthand _ _ | .documentStart => true
  | _ => false

/-- Reads a stream of tokens that is empty or holds one document. -/
def readDocument (fuel : Nat) : TreeReader Node := do
  match ← peek with
  | none => return .absent
  | some token =>
      if isExplicit token then
        readDirectives fuel false
        require .documentStart
      modify fun state => { state with handles := state.handles ++ commonHandles }
      let root ←
        if isExplicit token ∧ (← peek).all endsContent then pure Node.absent
        else readNode fuel true false
      if (← get).tokens.all (· = .documentEnd) then return root else failure

end TreeReader

/-- The node of a stream of tokens that is empty or holds one document.  Three steps for each
token are enough. -/
def readDocument? (tokens : List Token) : Option Node :=
  ((TreeReader.readDocument (3 * tokens.length + 3)).run ⟨tokens, [], []⟩).map (·.1)

end CertAuthority.Yaml
