import CertAuthority.Hash.Sha256

/-!
# SHA-1

Key identifiers are SHA-1 digests of public keys.  The padding and the reading
of words are those of SHA-256.
-/

namespace CertAuthority.Hash.Sha1

open Sha256 (words pad wordOctets)

/-- The five chaining words. -/
structure State where
  a : UInt32
  b : UInt32
  c : UInt32
  d : UInt32
  e : UInt32

/-- The words every digest starts from. -/
def initial : State :=
  ⟨0x67452301, 0xefcdab89, 0x98badcfe, 0x10325476, 0xc3d2e1f0⟩

/-- Rotation of a word to the left. -/
def rotateLeft (word : UInt32) (amount : UInt32) : UInt32 :=
  (word <<< amount) ||| (word >>> (32 - amount))

/-- Appends the next word of the message schedule to the words so far. -/
def extendSchedule (schedule : Array UInt32) : Array UInt32 :=
  let size := schedule.size
  schedule.push (rotateLeft (schedule.getD (size - 3) 0 ^^^ schedule.getD (size - 8) 0 ^^^
    schedule.getD (size - 14) 0 ^^^ schedule.getD (size - 16) 0) 1)

/-- The eighty schedule words of a block of sixteen. -/
def schedule (block : List UInt32) : Array UInt32 :=
  (List.range 64).foldl (fun words _ => extendSchedule words) block.toArray

/-- The mixing function and the constant of a round, which change every twenty rounds. -/
def stage (index : Nat) (b c d : UInt32) : UInt32 × UInt32 :=
  if index < 20 then ((b &&& c) ||| ((~~~ b) &&& d), 0x5a827999)
  else if index < 40 then (b ^^^ c ^^^ d, 0x6ed9eba1)
  else if index < 60 then ((b &&& c) ||| (b &&& d) ||| (c &&& d), 0x8f1bbcdc)
  else (b ^^^ c ^^^ d, 0xca62c1d6)

/-- One round on the chaining words. -/
def round (s : State) (index : Nat) (input : UInt32) : State :=
  let mixed := stage index s.b s.c s.d
  ⟨rotateLeft s.a 5 + mixed.1 + s.e + mixed.2 + input, s.a, rotateLeft s.b 30, s.c, s.d⟩

/-- Folds a block into the chaining words. -/
def compress (s : State) (block : List UInt32) : State :=
  let t := ((List.range 80).zip (schedule block).toList).foldl
    (fun state pair => round state pair.1 pair.2) s
  ⟨s.a + t.a, s.b + t.b, s.c + t.c, s.d + t.d, s.e + t.e⟩

/-- Folds all blocks of sixteen words; `count` bounds how many there are. -/
def absorb (s : State) : (count : Nat) → List UInt32 → State
  | 0, _ => s
  | count + 1, input => absorb (compress s (input.take 16)) count (input.drop 16)

/-- The SHA-1 digest. -/
def sha1 (message : Octets) : Octets :=
  let input := words (pad message)
  let s := absorb initial (input.length / 16) input
  [s.a, s.b, s.c, s.d, s.e].flatMap wordOctets

end CertAuthority.Hash.Sha1
