/-!
# Octet strings

Everything this library signs, encodes or decodes is a list of octets.  This
module supplies the two readings it needs of such a list: as a natural number
written most significant octet first, and as hexadecimal text.

`Octets.ofNat` writes no leading zero octet, so a number has exactly one
written form; `Octets.ofNatPadded` writes a chosen number of octets instead.
-/

namespace CertAuthority

/-- A string of octets. -/
abbrev Octets := List UInt8

namespace Octets

/-- The number whose base-256 digits are the octets, most significant first. -/
def toNat (octets : Octets) : Nat :=
  octets.foldl (fun value octet => value * 256 + octet.toNat) 0

/-- How many octets a number needs; zero needs none. -/
def byteLength (value : Nat) : Nat :=
  if value = 0 then 0 else value.log2 / 8 + 1

/-- The lowest `width` base-256 digits of a number, most significant first. -/
def ofNatPadded : (width : Nat) → Nat → Octets
  | 0, _ => []
  | width + 1, value => UInt8.ofNat (value >>> (8 * width)) :: ofNatPadded width value

/-- The base-256 digits of a number without leading zeros; zero has none. -/
def ofNat (value : Nat) : Octets :=
  ofNatPadded (byteLength value) value

/-- Widens to at least `width` octets by writing zeros in front. -/
def padLeft (width : Nat) (octets : Octets) : Octets :=
  List.replicate (width - octets.length) 0 ++ octets

/-- Whether the first list comes strictly before the second in dictionary order. -/
def precedes : Octets → Octets → Bool
  | _, [] => false
  | [], _ :: _ => true
  | left :: leftRest, right :: rightRest =>
      left < right || (left == right && precedes leftRest rightRest)

/-- The lower-case hexadecimal digit of a number below sixteen. -/
def hexDigit (digit : Nat) : Char :=
  if digit < 10 then Char.ofNat ('0'.toNat + digit) else Char.ofNat ('a'.toNat + (digit - 10))

/-- Two lower-case hexadecimal digits for each octet. -/
def toHex (octets : Octets) : String :=
  String.ofList (octets.flatMap fun octet =>
    [hexDigit (octet.toNat / 16), hexDigit (octet.toNat % 16)])

/-- The value of a hexadecimal digit of either case. -/
def hexValue? (digit : Char) : Option Nat :=
  if '0' ≤ digit ∧ digit ≤ '9' then some (digit.toNat - '0'.toNat)
  else if 'a' ≤ digit ∧ digit ≤ 'f' then some (digit.toNat - 'a'.toNat + 10)
  else if 'A' ≤ digit ∧ digit ≤ 'F' then some (digit.toNat - 'A'.toNat + 10)
  else none

/-- Reads pairs of hexadecimal digits; anything else is refused. -/
def ofHexDigits? : List Char → Option Octets
  | [] => some []
  | high :: low :: rest => do
      let highValue ← hexValue? high
      let lowValue ← hexValue? low
      let octets ← ofHexDigits? rest
      return UInt8.ofNat (highValue * 16 + lowValue) :: octets
  | [_] => none

/-- Reads the form that `toHex` writes. -/
def ofHex? (text : String) : Option Octets :=
  ofHexDigits? text.toList

end Octets

end CertAuthority
