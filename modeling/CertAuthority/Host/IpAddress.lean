import CertAuthority.Octets

/-!
# Network addresses

Addresses of version 4 are four octets and those of version 6 eight words of
sixteen bits.  `IpAddress.parse?` reads the usual text forms and `toString`
writes one of them: decimal octets, or hexadecimal words with the longest run
of zeros left out.
-/

namespace CertAuthority

/-- A network address of either version. -/
inductive IpAddress where
  | v4 (a b c d : UInt8)
  | v6 (a b c d e f g h : UInt16)
deriving DecidableEq

namespace IpAddress

/-- The two octets of a word. -/
def wordOctets (word : UInt16) : Octets :=
  [(word >>> 8).toUInt8, word.toUInt8]

/-- The word of two octets. -/
def wordOf (high low : UInt8) : UInt16 :=
  high.toUInt16 <<< 8 ||| low.toUInt16

/-- The octets of an address. -/
def octets : IpAddress → Octets
  | v4 a b c d => [a, b, c, d]
  | v6 a b c d e f g h => [a, b, c, d, e, f, g, h].flatMap wordOctets

/-- The address of four or sixteen octets. -/
def ofOctets? : Octets → Option IpAddress
  | [a, b, c, d] => some (v4 a b c d)
  | [a, b, c, d, e, f, g, h, i, j, k, l, m, n, o, p] =>
      some (v6 (wordOf a b) (wordOf c d) (wordOf e f) (wordOf g h) (wordOf i j) (wordOf k l)
        (wordOf m n) (wordOf o p))
  | _ => none

/-- The address of version 4 that an address of version 6 stands for, if it does. -/
def unmapped : IpAddress → IpAddress
  | v6 0 0 0 0 0 0xffff g h => v4 (g >>> 8).toUInt8 g.toUInt8 (h >>> 8).toUInt8 h.toUInt8
  | address => address

/-- Octets in decimal, joined by dots. -/
def dotted (octets : Octets) : String :=
  ".".intercalate (octets.map fun octet => Nat.repr octet.toNat)

/-- A word in hexadecimal. -/
def hexWord (word : UInt16) : String :=
  String.ofList (Nat.toDigits 16 word.toNat)

/-- The zeros at the front of a list of words. -/
def leadingZeros (words : List UInt16) : Nat :=
  (words.takeWhile (· == 0)).length

/-- Start and length of the longest run of zeros in words that follow `start` others. -/
def longestZeros : (start : Nat) → List UInt16 → Nat × Nat
  | _, [] => (0, 0)
  | start, word :: rest =>
      let here := leadingZeros (word :: rest)
      let later := longestZeros (start + 1) rest
      if here ≥ later.2 then (start, here) else later

/-- Words in hexadecimal, joined by colons. -/
def joinWords (words : List UInt16) : String :=
  ":".intercalate (words.map hexWord)

/-- Eight words with the first of the longest runs of two or more zeros left out. -/
def compressed (words : List UInt16) : String :=
  let (start, length) := longestZeros 0 words
  if length < 2 then joinWords words
  else joinWords (words.take start) ++ "::" ++ joinWords (words.drop (start + length))

/-- The address as a text. -/
def toString : IpAddress → String
  | v4 a b c d => dotted [a, b, c, d]
  | v6 0 0 0 0 0 0xffff g h => "::ffff:" ++ dotted (wordOctets g ++ wordOctets h)
  | v6 a b c d e f g h => compressed [a, b, c, d, e, f, g, h]

/-- The number of digits of a base, of which at most `limit` may be there. -/
def digitsValue? (base limit : Nat) (digits : List Char) : Option Nat :=
  if digits = [] ∨ limit < digits.length then none
  else digits.foldlM (fun value digit => do
    let place ← Octets.hexValue? digit
    if place < base then some (value * base + place) else none) 0

/-- A decimal octet without zeros in front. -/
def parseOctet? (digits : List Char) : Option UInt8 := do
  let value ← digitsValue? 10 3 digits
  if 255 < value ∨ (digits.head? = some '0' ∧ digits.length ≠ 1) then none
  else some (UInt8.ofNat value)

/-- Splits a text at every occurrence of a character. -/
def splitChars (separator : Char) : List Char → List (List Char)
  | [] => [[]]
  | char :: rest =>
      match splitChars separator rest with
      | [] => [[char]]
      | part :: parts => if char = separator then [] :: part :: parts else (char :: part) :: parts

/-- Reads four decimal octets. -/
def parseV4? (chars : List Char) : Option IpAddress := do
  match ← (splitChars '.' chars).mapM parseOctet? with
  | [a, b, c, d] => some (v4 a b c d)
  | _ => none

/-- A word of up to four hexadecimal digits. -/
def parseWord? (digits : List Char) : Option UInt16 :=
  (digitsValue? 16 4 digits).map UInt16.ofNat

/-- Reads words between colons; the last two may be written as four octets if `last`. -/
def parseWords? (last : Bool) : List (List Char) → Option (List UInt16)
  | [] => some []
  | [part] =>
      match parseWord? part with
      | some word => some [word]
      | none =>
          match last, parseV4? part with
          | true, some (v4 a b c d) => some [wordOf a b, wordOf c d]
          | _, _ => none
  | part :: parts => do
      let word ← parseWord? part
      let words ← parseWords? last parts
      return word :: words

/-- Reads words between colons, of which there may be none. -/
def parseGroup? (last : Bool) (chars : List Char) : Option (List UInt16) :=
  if chars = [] then some [] else parseWords? last (splitChars ':' chars)

/-- The address of eight words. -/
def ofWords? : List UInt16 → Option IpAddress
  | [a, b, c, d, e, f, g, h] => some (v6 a b c d e f g h)
  | _ => none

/-- Splits a text at the first double colon. -/
def splitGap? : List Char → Option (List Char × List Char)
  | ':' :: ':' :: rest => some ([], rest)
  | char :: rest => (splitGap? rest).map fun (before, after) => (char :: before, after)
  | [] => none

/-- Reads eight words, or fewer with a double colon for at least one word of zero. -/
def parseV6? (chars : List Char) : Option IpAddress :=
  match splitGap? chars with
  | none => (parseGroup? true chars).bind ofWords?
  | some (before, after) => do
      let front ← parseGroup? false before
      let back ← parseGroup? true after
      if front.length + back.length ≤ 7 then
        ofWords? (front ++ List.replicate (8 - front.length - back.length) 0 ++ back)
      else none

/-- Reads an address of either version. -/
def parse? (text : String) : Option IpAddress :=
  parseV4? text.toList <|> parseV6? text.toList

end IpAddress

end CertAuthority
