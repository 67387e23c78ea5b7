import CertAuthority.Host.Domain.Joining
import CertAuthority.Host.Domain.Punycode

/-!
# Labels of domain names

A name is made of labels with dots between them.  A label holds characters in
their folded and composed form, or is the written form of such a label in
letters and digits, after `xn--`.
-/

namespace CertAuthority.Domain

/-- Whether a label is in a form that only other labels are written in. -/
def hasWrittenMark (label : List Char) : Bool :=
  ['x', 'n', '-', '-'].isPrefixOf label

/-- Whether every character is below 128. -/
def isBasic (label : List Char) : Bool :=
  label.all (·.toNat < 128)

/-- The longest label that is put into letters and digits. -/
def longestLabel : Nat := 1000

/-- The longest written form that is read. -/
def longestWritten : Nat := 2000

/-- Whether a label that is not basic may be part of a name. -/
def isLabel (label : List Char) : Bool :=
  label.length ≤ longestLabel && !hasWrittenMark label && !(label.head?.any isMark) &&
    joinersFit [] label

/-- The label that is written after `xn--`, if it is in folded and composed form. -/
def decodeLabel? (written : List Char) : Option (List Char) := do
  let digits := written.drop 4
  if digits.getLast?.all (· == '-') ∨ longestWritten < digits.length then none
  else
    let label ← Punycode.decode? digits
    if label.all (fun char => fold? char == some [char]) && compose label == label then some label
    else none

/-- The label that a folded and composed label stands for. -/
def readLabel? (label : List Char) : Option (List Char) :=
  if isBasic label then
    if hasWrittenMark label then (decodeLabel? label).filter isLabel else some label
  else if isLabel label then some label
  else none

end CertAuthority.Domain
