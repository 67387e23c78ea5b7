import CertAuthority.Octets

/-!
# SHA-224 and SHA-256

Both digests run the same compression over 512-bit blocks of 32-bit words; they
differ in the starting state and in how many words of the last state are kept.
-/

namespace CertAuthority.Hash.Sha256

/-- Fractions of the cube roots of the first sixty-four primes, one for each round. -/
def roundConstants : List UInt32 := [
  0x428a2f98, 0x71374491, 0xb5c0fbcf, 0xe9b5dba5, 0x3956c25b, 0x59f111f1,
  0x923f82a4, 0xab1c5ed5, 0xd807aa98, 0x12835b01, 0x243185be, 0x550c7dc3,
  0x72be5d74, 0x80deb1fe, 0x9bdc06a7, 0xc19bf174, 0xe49b69c1, 0xefbe4786,
  0x0fc19dc6, 0x240ca1cc, 0x2de92c6f, 0x4a7484aa, 0x5cb0a9dc, 0x76f988da,
  0x983e5152, 0xa831c66d, 0xb00327c8, 0xbf597fc7, 0xc6e00bf3, 0xd5a79147,
  0x06ca6351, 0x14292967, 0x27b70a85, 0x2e1b2138, 0x4d2c6dfc, 0x53380d13,
  0x650a7354, 0x766a0abb, 0x81c2c92e, 0x92722c85, 0xa2bfe8a1, 0xa81a664b,
  0xc24b8b70, 0xc76c51a3, 0xd192e819, 0xd6990624, 0xf40e3585, 0x106aa070,
  0x19a4c116, 0x1e376c08, 0x2748774c, 0x34b0bcb5, 0x391c0cb3, 0x4ed8aa4a,
  0x5b9cca4f, 0x682e6ff3, 0x748f82ee, 0x78a5636f, 0x84c87814, 0x8cc70208,
  0x90befffa, 0xa4506ceb, 0xbef9a3f7, 0xc67178f2]

/-- The eight chaining words. -/
structure State where
  a : UInt32
  b : UInt32
  c : UInt32
  d : UInt32
  e : UInt32
  f : UInt32
  g : UInt32
  h : UInt32

/-- Fractions of the square roots of the first eight primes. -/
def initial256 : State :=
  ⟨0x6a09e667, 0xbb67ae85, 0x3c6ef372, 0xa54ff53a,
    0x510e527f, 0x9b05688c, 0x1f83d9ab, 0x5be0cd19⟩

/-- Low halves of the 64-bit fractions of the square roots of the ninth to sixteenth primes. -/
def initial224 : State :=
  ⟨0xc1059ed8, 0x367cd507, 0x3070dd17, 0xf70e5939,
    0xffc00b31, 0x68581511, 0x64f98fa7, 0xbefa4fa4⟩

/-- Rotation of a word to the right. -/
def rotateRight (word : UInt32) (amount : UInt32) : UInt32 :=
  (word >>> amount) ||| (word <<< (32 - amount))

/-- Reads four octets as one word, most significant first. -/
def word (first second third fourth : UInt8) : UInt32 :=
  (first.toUInt32 <<< 24) ||| (second.toUInt32 <<< 16) ||| (third.toUInt32 <<< 8) |||
    fourth.toUInt32

/-- Reads octets four at a time; a shorter remainder is dropped. -/
def words : Octets → List UInt32
  | first :: second :: third :: fourth :: rest => word first second third fourth :: words rest
  | _ => []

/-- The message followed by a one bit, zeros to a full block, and its length in bits. -/
def pad (message : Octets) : Octets :=
  let zeros := (119 - message.length % 64) % 64
  message ++ 0x80 :: (List.replicate zeros 0 ++ Octets.ofNatPadded 8 (8 * message.length))

/-- Appends the next word of the message schedule to the words so far. -/
def extendSchedule (schedule : Array UInt32) : Array UInt32 :=
  let size := schedule.size
  let older := schedule.getD (size - 15) 0
  let newer := schedule.getD (size - 2) 0
  let small := rotateRight older 7 ^^^ rotateRight older 18 ^^^ (older >>> 3)
  let large := rotateRight newer 17 ^^^ rotateRight newer 19 ^^^ (newer >>> 10)
  schedule.push (schedule.getD (size - 16) 0 + small + schedule.getD (size - 7) 0 + large)

/-- The sixty-four schedule words of a block of sixteen. -/
def schedule (block : List UInt32) : Array UInt32 :=
  (List.range 48).foldl (fun words _ => extendSchedule words) block.toArray

/-- One round on the chaining words. -/
def round (s : State) (constant input : UInt32) : State :=
  let large := rotateRight s.e 6 ^^^ rotateRight s.e 11 ^^^ rotateRight s.e 25
  let choice := (s.e &&& s.f) ^^^ ((~~~ s.e) &&& s.g)
  let first := s.h + large + choice + constant + input
  let small := rotateRight s.a 2 ^^^ rotateRight s.a 13 ^^^ rotateRight s.a 22
  let majority := (s.a &&& s.b) ^^^ (s.a &&& s.c) ^^^ (s.b &&& s.c)
  ⟨first + (small + majority), s.a, s.b, s.c, s.d + first, s.e, s.f, s.g⟩

/-- Folds a block into the chaining words. -/
def compress (s : State) (block : List UInt32) : State :=
  let t := (roundConstants.zip (schedule block).toList).foldl
    (fun state pair => round state pair.1 pair.2) s
  ⟨s.a + t.a, s.b + t.b, s.c + t.c, s.d + t.d, s.e + t.e, s.f + t.f, s.g + t.g, s.h + t.h⟩

/-- Folds all blocks of sixteen words; `count` bounds how many there are. -/
def absorb (s : State) : (count : Nat) → List UInt32 → State
  | 0, _ => s
  | count + 1, input => absorb (compress s (input.take 16)) count (input.drop 16)

/-- The chaining words after the whole padded message. -/
def run (initial : State) (message : Octets) : State :=
  let input := words (pad message)
  absorb initial (input.length / 16) input

/-- The octets of a word, most significant first. -/
def wordOctets (value : UInt32) : Octets :=
  [(value >>> 24).toUInt8, (value >>> 16).toUInt8, (value >>> 8).toUInt8, value.toUInt8]

/-- The chaining words in order. -/
def State.toOctets (s : State) : Octets :=
  [s.a, s.b, s.c, s.d, s.e, s.f, s.g, s.h].flatMap wordOctets

/-- The SHA-256 digest. -/
def sha256 (message : Octets) : Octets :=
  (run initial256 message).toOctets

/-- The SHA-224 digest: seven of the eight last words. -/
def sha224 (message : Octets) : Octets :=
  (run initial224 message).toOctets.take 28

end CertAuthority.Hash.Sha256
