import CertAuthority.Host.Domain.CompositionTable

/-!
# Composed form

The same text can be written with marks of its own or with composed characters.
`compose` writes it in one way: marks in the order of their classes, and
characters composed where they can be.
-/

namespace CertAuthority.Domain

/-- The class of a mark, zero for other characters. -/
def markClass (char : Char) : Nat :=
  let code := char.toNat
  (markClasses.findSome? fun (first, last, number) =>
    if first ≤ code ∧ code ≤ last then some number else none).getD 0

/-- The letters of a Hangul syllable. -/
def syllableLetters (code : Nat) : List Char :=
  let place := code - 0xac00
  let final := place % 28
  [Char.ofNat (0x1100 + place / 588), Char.ofNat (0x1161 + place % 588 / 28)] ++
    if final = 0 then [] else [Char.ofNat (0x11a7 + final)]

/-- The characters of which a character is composed, in at most `depth` steps. -/
def parts : (depth : Nat) → Char → List Char
  | 0, char => [char]
  | depth + 1, char =>
      let code := char.toNat
      if 0xac00 ≤ code ∧ code ≤ 0xd7a3 then syllableLetters code
      else
        match compositions.lookup code with
        | none => [char]
        | some (first, second) => parts depth (Char.ofNat first) ++ [Char.ofNat second]

/-- Puts a mark behind the marks before it that have no greater class. -/
def insertMark (mark : Char) : List Char → List Char
  | [] => [mark]
  | char :: rest =>
      if markClass char ≤ markClass mark then char :: insertMark mark rest else mark :: char :: rest

/-- Puts marks that follow each other in the order of their classes; `marks` are in order. -/
def orderMarks (marks : List Char) : List Char → List Char
  | [] => marks
  | char :: rest =>
      if markClass char = 0 then marks ++ char :: orderMarks [] rest
      else orderMarks (insertMark char marks) rest

/-- The character that two characters make up. -/
def composePair? (first second : Char) : Option Char :=
  let a := first.toNat
  let b := second.toNat
  if 0x1100 ≤ a ∧ a ≤ 0x1112 ∧ 0x1161 ≤ b ∧ b ≤ 0x1175 then
    some (Char.ofNat (0xac00 + (a - 0x1100) * 588 + (b - 0x1161) * 28))
  else if 0xac00 ≤ a ∧ a ≤ 0xd7a3 ∧ (a - 0xac00) % 28 = 0 ∧ 0x11a8 ≤ b ∧ b ≤ 0x11c2 then
    some (Char.ofNat (a + (b - 0x11a7)))
  else
    (compositions.find? fun (_, pair) => pair.1 == a && pair.2 == b).map fun entry =>
      Char.ofNat entry.1

/-- Composes what follows `starter` with it, where no character in between stands in the way;
`skipped` are those in between, last first. -/
def composeWith (starter : Char) (skipped : List Char) : List Char → List Char
  | [] => starter :: skipped.reverse
  | char :: rest =>
      let free :=
        match skipped with
        | [] => true
        | last :: _ => markClass last != 0 && markClass last < markClass char
      match if free then composePair? starter char else none with
      | some composed => composeWith composed skipped rest
      | none =>
          if markClass char = 0 then starter :: (skipped.reverse ++ composeWith char [] rest)
          else composeWith starter (char :: skipped) rest

/-- Composes characters that are in order. -/
def composeAll : List Char → List Char
  | [] => []
  | char :: rest =>
      if markClass char = 0 then composeWith char [] rest else char :: composeAll rest

/-- The composed form of a text. -/
def compose (text : List Char) : List Char :=
  composeAll (orderMarks [] (text.flatMap (parts 4)))

end CertAuthority.Domain
