import CertAuthority.Host.Domain.FoldingTable

/-!
# Folding of domain names

Domain names are compared without regard to case, width and other variations of
form.  `fold?` gives what a character stands for in a name: itself, other
characters, or nothing; it gives no answer for a character that names cannot
hold.
-/

namespace CertAuthority.Domain

/-- Whether a code point lies in one of some ranges. -/
def isInRanges (ranges : List (Nat × Nat)) (code : Nat) : Bool :=
  ranges.any fun range => range.1 ≤ code && code ≤ range.2

/-- The part at a place of a text with bars between its parts, if there is one. -/
def partAt? : (place : Nat) → List Char → Option (List Char)
  | 0, text =>
      let part := text.takeWhile (· != '|')
      if part = [] then none else some part
  | place + 1, text => partAt? place ((text.dropWhile (· != '|')).drop 1)

/-- What a character in one of the runs stands for. -/
def foldRun? (code : Nat) : Option Char :=
  foldedRuns.findSome? fun (first, last, step, image) =>
    if first ≤ code ∧ code ≤ last ∧ (code - first) % step = 0 then
      some (Char.ofNat (image + (code - first)))
    else none

/-- What a character in one of the rows stands for. -/
def foldRow? (code : Nat) : Option (List Char) :=
  foldedRows.findSome? fun (first, images) =>
    if first ≤ code ∧ code < first + images.length then partAt? (code - first) images.toList
    else none

/-- What a character stands for in a name. -/
def fold? (char : Char) : Option (List Char) :=
  let code := char.toNat
  if !isInRanges repertoire code then none
  else if isInRanges ignoredRanges code then some []
  else
    match foldRun? code with
    | some image => some [image]
    | none => some ((foldRow? code).getD [char])

end CertAuthority.Domain
