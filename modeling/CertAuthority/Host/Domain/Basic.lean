import CertAuthority.Host.Domain.Label
import CertAuthority.Host.IpAddress

/-!
# Domain names

`Domain.labels?` reads a name as the labels that it is written with, folded and
composed.  A name that ends in a number is no name, but may be a network
address with fewer parts, or with parts in other bases.
-/

namespace CertAuthority.Domain

/-- Whether a character may not be in a name. -/
def isForbidden (char : Char) : Bool :=
  char.toNat ≤ 0x20 || char.toNat = 0x7f || "%#/:<>?@[\\]^|".toList.contains char

/-- The labels of a name, if it is one.  If one of them is written from right to left, each
has to keep to one direction. -/
def labels? (name : List Char) : Option (List (List Char)) := do
  let folded ← name.mapM fold?
  let written := IpAddress.splitChars '.' (compose folded.flatten)
  let labels ← written.mapM readLabel?
  if labels.any (·.any isForbidden) then none
  else if labels.any (·.any isRightward) ∧ ¬labels.all keepsDirection then none
  else some written

/-- The number that a label writes: in base sixteen after `0x`, in base eight after a zero,
or in base ten. -/
def number? : List Char → Option Nat
  | [] => none
  | ['0'] => some 0
  | ['0', 'x'] => some 0
  | '0' :: 'x' :: digits => IpAddress.digitsValue? 16 digits.length digits
  | '0' :: digits => IpAddress.digitsValue? 8 digits.length digits
  | digits => IpAddress.digitsValue? 10 digits.length digits

/-- Labels without an empty one at the end. -/
def dropEmptyEnd (labels : List (List Char)) : List (List Char) :=
  if labels.getLast? = some [] then labels.dropLast else labels

/-- Whether the last label is a number, or looks like one. -/
def endsInNumber (labels : List (List Char)) : Bool :=
  match (dropEmptyEnd labels).getLast? with
  | none => false
  | some label => (!label.isEmpty && label.all Char.isDigit) || (number? label).isSome

/-- Whether labels are the one to four numbers of an address: octets, and a last number that
fills what is left of 32 bits. -/
def isNumericAddress (labels : List (List Char)) : Bool :=
  match (dropEmptyEnd labels).mapM number? with
  | none => false
  | some numbers =>
      numbers.length ≤ 4 && numbers.dropLast.all (· < 256) &&
        numbers.getLast?.any (· < Nat.pow 256 (5 - numbers.length))

/-- Whether a text names a host: by a name that is not empty, or by an address in numbers. -/
def isHost (text : List Char) : Bool :=
  match labels? text with
  | none => false
  | some labels =>
      if endsInNumber labels then isNumericAddress labels else labels != [[]]

end CertAuthority.Domain
