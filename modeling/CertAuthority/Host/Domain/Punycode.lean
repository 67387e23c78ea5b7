/-!
# Labels in letters and digits

A label with other characters than letters and digits has a written form in
these: its letters and digits, a hyphen, and then numbers that tell which other
characters go where.  `Punycode.decode?` reads that form.  Each number counts on
from the place and the character of the one before, in digits whose weights
adapt to the size of the numbers so far.
-/

namespace CertAuthority.Domain.Punycode

/-- The value of a digit: letters come before figures. -/
def digitValue? (char : Char) : Option Nat :=
  if 'a' ≤ char ∧ char ≤ 'z' then some (char.toNat - 'a'.toNat)
  else if 'A' ≤ char ∧ char ≤ 'Z' then some (char.toNat - 'A'.toNat)
  else if '0' ≤ char ∧ char ≤ '9' then some (char.toNat - '0'.toNat + 26)
  else none

/-- Where digits of a place begin to say that another digit follows. -/
def threshold (place bias : Nat) : Nat :=
  max 1 (min 26 (place - bias))

/-- Divides a difference until it is small, and counts the divisions in steps of 36. -/
def reduce (delta steps : Nat) : Nat × Nat :=
  if 455 < delta then reduce (delta / 35) (steps + 36) else (delta, steps)
termination_by delta

/-- The bias after a number: it follows the size of the numbers, halved, and shared among the
characters so far; the first number counts for less. -/
def adapt (delta count : Nat) (first : Bool) : Nat :=
  let halved := if first then delta / 700 else delta / 2
  let (rest, steps) := reduce (halved + halved / count) 0
  steps + 36 * rest / (rest + 38)

/-- What is known while numbers are read. -/
structure State where
  /-- The characters so far. -/
  text : List Char
  /-- The code point of the last character that was put in. -/
  code : Nat
  /-- The place from which the next number counts. -/
  origin : Nat
  bias : Nat
  /-- The number that is being read, counted from the origin. -/
  number : Nat
  weight : Nat
  /-- Which digit of the number comes next, in steps of 36. -/
  place : Nat

namespace State

/-- Before the first number. -/
def start (text : List Char) : State := ⟨text, 128, 0, 72, 0, 1, 36⟩

/-- Puts in the character that a finished number gives. -/
def insert? (state : State) : Option State :=
  let count := state.text.length + 1
  let code := state.code + state.number / count
  let position := state.number % count
  if code.isValidChar then
    some
      { text := state.text.take position ++ Char.ofNat code :: state.text.drop position
        code
        origin := position + 1
        bias := adapt (state.number - state.origin) count (state.origin == 0)
        number := position + 1
        weight := 1
        place := 36 }
  else none

/-- Numbers and weights stay below this bound. -/
def bound : Nat := 0x100000000

/-- Reads one digit. -/
def step? (state : State) (digit : Nat) : Option State :=
  let limit := threshold state.place state.bias
  let state := { state with number := state.number + digit * state.weight }
  if bound ≤ state.number then none
  else if digit < limit then state.insert?
  else if bound ≤ state.weight * (36 - limit) then none
  else some { state with weight := state.weight * (36 - limit), place := state.place + 36 }

end State

/-- The letters and digits in front of the last hyphen, if there are any, and the digits. -/
def split (text : List Char) : List Char × List Char :=
  let digits := (text.reverse.takeWhile (· != '-')).reverse
  let front := text.take (text.length - digits.length - 1)
  if front = [] then ([], text) else (front, digits)

/-- The label that letters and digits write. -/
def decode? (text : List Char) : Option (List Char) := do
  let (front, digits) := split text
  let values ← digits.mapM digitValue?
  let state ← values.foldlM State.step? (State.start front)
  if state.place = 36 then some state.text else none

end CertAuthority.Domain.Punycode
