import CertAuthority.Yaml.Glyph

/-!
# Gaps between words

White space within a scalar counts only if a word follows it.  Blanks on one
line are kept as they are.  A single line end becomes a space; of several, the
first is dropped and the others are kept; blanks beside line ends are dropped.
-/

namespace CertAuthority.Yaml

/-- White space read after a word. -/
inductive Gap where
  /-- Blanks on the same line, last first. -/
  | blanks (chars : List Char)
  /-- Line ends: the first, unless it was escaped, and those after it, last first. -/
  | lines (first : Option Char) (more : List Char)
deriving DecidableEq

namespace Gap

/-- No white space. -/
def empty : Gap := blanks []

/-- Whether there is no white space. -/
def isEmpty : Gap → Bool
  | blanks [] => true
  | _ => false

/-- Whether the next word is on another line. -/
def endsLine : Gap → Bool
  | blanks _ => false
  | lines _ _ => true

/-- A gap with one more blank. -/
def addBlank (char : Char) : Gap → Gap
  | blanks chars => blanks (char :: chars)
  | lines first more => lines first more

/-- A gap with one more line end. -/
def addLineEnd (char : Char) : Gap → Gap
  | blanks _ => lines (some char) []
  | lines first more => lines first (char :: more)

/-- What a gap stands for once a word follows it, last character first. -/
def fold : Gap → List Char
  | blanks chars => chars
  | lines none more => more
  | lines (some first) more =>
      if first = '\n' then (if more = [] then [' '] else more) else more ++ [first]

end Gap

end CertAuthority.Yaml
