/-!
# Arithmetic modulo a number

Powers, inverses and square roots of residues, on natural numbers that are
reduced after every step.  A residue is kept below its modulus.
-/

namespace CertAuthority.Modular

/-- The binary digits of a number, most significant first. -/
def bits (value : Nat) : List Bool :=
  (List.range (value.log2 + 1)).reverse.map value.testBit

/-- `base` to the power `exponent` modulo `modulus`, by squaring. -/
def pow (base exponent modulus : Nat) : Nat :=
  (bits exponent).foldl
    (fun power bit =>
      let square := power * power % modulus
      if bit then square * base % modulus else square)
    (1 % modulus)

/-- The residue `left - right`, for residues `left` and `right`. -/
def sub (modulus left right : Nat) : Nat :=
  (left + (modulus - right)) % modulus

/-- The inverse of a nonzero residue of a prime modulus, by Fermat's little theorem. -/
def primeInverse (value modulus : Nat) : Nat :=
  pow value (modulus - 2) modulus

/--
Euclid's algorithm on two remainders, each carried with the multiplier of the
first argument that produces it; `steps` bounds the divisions.
-/
def euclid : (steps : Nat) → (older newer : Nat × Int) → Nat × Int
  | 0, older, _ => older
  | steps + 1, older, newer =>
      if newer.1 = 0 then older
      else
        let quotient := older.1 / newer.1
        euclid steps newer (older.1 % newer.1, older.2 - quotient * newer.2)

/-- The inverse of a number for any modulus, if the two have no common divisor. -/
def inverse? (value modulus : Nat) : Option Nat :=
  let last := euclid (2 * modulus.log2 + 4) (value % modulus, 1) (modulus, 0)
  if last.1 = 1 then some (last.2 % modulus).toNat else none

/-- How often two divides a positive number; `steps` bounds the count. -/
def twoAdicity : (steps : Nat) → Nat → Nat
  | 0, _ => 0
  | steps + 1, value => if value % 2 = 0 then twoAdicity steps (value / 2) + 1 else 0

/-- The number of squarings that take a residue to one, if at most `limit` do. -/
def squaringsToOne (modulus : Nat) : (limit : Nat) → Nat → Option Nat
  | 0, value => if value = 1 then some 0 else none
  | limit + 1, value =>
      if value = 1 then some 0
      else (squaringsToOne modulus limit (value * value % modulus)).map (· + 1)

/--
Improves a candidate root until the error residue is one.  `order` bounds the
two-power order of the error, and `generator` has exactly that order.
-/
def refineRoot (modulus : Nat) : (steps order generator error root : Nat) → Option Nat
  | 0, _, _, error, root => if error = 1 then some root else none
  | steps + 1, order, generator, error, root =>
      match squaringsToOne modulus order error with
      | none => none
      | some 0 => some root
      | some squarings =>
          if squarings = order then none
          else
            let factor := pow generator (Nat.pow 2 (order - squarings - 1)) modulus
            let square := factor * factor % modulus
            refineRoot modulus steps squarings square (error * square % modulus)
              (root * factor % modulus)

/--
A square root of a residue of an odd prime modulus, given any residue that is
not a square.
-/
def sqrt? (nonSquare value modulus : Nat) : Option Nat :=
  if value = 0 then some 0
  else do
    let order := twoAdicity (modulus.log2 + 1) (modulus - 1)
    let odd := (modulus - 1) / Nat.pow 2 order
    let root ← refineRoot modulus (order + 1) order (pow nonSquare odd modulus)
      (pow value odd modulus) (pow value ((odd + 1) / 2) modulus)
    if root * root % modulus = value then some root else none

end CertAuthority.Modular
