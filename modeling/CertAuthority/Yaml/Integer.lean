import CertAuthority.Octets

/-!
# Integers in documents

Numbers of 64 bits with a sign, written in decimal, or after `0x`, `0o` and
`0b` in base sixteen, eight and two.
-/

namespace CertAuthority.Yaml

/-- The number that digits of a base write; there has to be one. -/
def magnitude? (base : Nat) (digits : List Char) : Option Nat :=
  if digits = [] then none
  else digits.foldlM (fun value digit => do
    let place ← Octets.hexValue? digit
    if place < base then some (base * value + place) else none) 0

/-- The number that digits write, after the mark of their base if it is not ten.  A decimal
number has no zeros in front. -/
def unsigned? : List Char → Option Nat
  | '0' :: 'x' :: digits => magnitude? 16 digits
  | '0' :: 'o' :: digits => magnitude? 8 digits
  | '0' :: 'b' :: digits => magnitude? 2 digits
  | ['0'] => some 0
  | '0' :: _ => none
  | digits => magnitude? 10 digits

/-- The number that a text writes. -/
def integer? (text : List Char) : Option Int := do
  let value ←
    match text with
    | '+' :: rest => (unsigned? rest).map Int.ofNat
    | '-' :: rest => (unsigned? rest).map fun value => -Int.ofNat value
    | rest => (unsigned? rest).map Int.ofNat
  if -0x8000000000000000 ≤ value ∧ value < 0x8000000000000000 then some value else none

end CertAuthority.Yaml
