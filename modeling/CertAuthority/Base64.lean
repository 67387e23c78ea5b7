import CertAuthority.Octets

/-!
# Base64

Three octets are written as four characters of a 64-letter alphabet; a shorter
last group is filled with `=`.  `encode` writes the one accepted form and
`decode?` refuses every other: missing filling, and bits set where the filling
stands.
-/

namespace CertAuthority.Base64

/-- The character of a value below 64. -/
def character (value : UInt8) : UInt8 :=
  if value < 26 then 0x41 + value
  else if value < 52 then 0x61 + (value - 26)
  else if value < 62 then 0x30 + (value - 52)
  else if value = 62 then 0x2b
  else 0x2f

/-- The value of a character of the alphabet. -/
def value? (char : UInt8) : Option UInt8 :=
  if 0x41 ≤ char ∧ char ≤ 0x5a then some (char - 0x41)
  else if 0x61 ≤ char ∧ char ≤ 0x7a then some (char - 0x61 + 26)
  else if 0x30 ≤ char ∧ char ≤ 0x39 then some (char - 0x30 + 52)
  else if char = 0x2b then some 62
  else if char = 0x2f then some 63
  else none

/-- What stands for the missing octets of the last group. -/
def filling : UInt8 := 0x3d

/-- The four characters of three octets. -/
def encodeGroup (first second third : UInt8) : Octets :=
  [character (first >>> 2),
    character ((first &&& 0x03) <<< 4 ||| second >>> 4),
    character ((second &&& 0x0f) <<< 2 ||| third >>> 6),
    character (third &&& 0x3f)]

/-- Writes octets as characters. -/
def encode : Octets → Octets
  | [] => []
  | [first] => (encodeGroup first 0 0).take 2 ++ [filling, filling]
  | [first, second] => (encodeGroup first second 0).take 3 ++ [filling]
  | first :: second :: third :: rest => encodeGroup first second third ++ encode rest

/-- The three octets of four characters. -/
def decodeGroup? (first second third fourth : UInt8) : Option Octets := do
  let a ← value? first
  let b ← value? second
  let c ← value? third
  let d ← value? fourth
  return [a <<< 2 ||| b >>> 4, b <<< 4 ||| c >>> 2, c <<< 6 ||| d]

/-- The octets of the last four characters, which may be filled. -/
def decodeLast? (first second third fourth : UInt8) : Option Octets :=
  let zero := character 0
  if fourth ≠ filling then decodeGroup? first second third fourth
  else if third ≠ filling then do
    let octets := (← decodeGroup? first second third zero).take 2
    if encode octets = [first, second, third, filling] then some octets else none
  else do
    let octets := (← decodeGroup? first second zero zero).take 1
    if encode octets = [first, second, filling, filling] then some octets else none

/-- Reads what `encode` writes. -/
def decode? : Octets → Option Octets
  | [] => some []
  | [first, second, third, fourth] => decodeLast? first second third fourth
  | first :: second :: third :: fourth :: rest => do
      let group ← decodeGroup? first second third fourth
      return group ++ (← decode? rest)
  | _ => none

end CertAuthority.Base64
