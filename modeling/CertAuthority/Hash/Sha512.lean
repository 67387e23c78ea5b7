import CertAuthority.Octets

/-!
# SHA-384 and SHA-512

Both digests run the same compression over 1024-bit blocks of 64-bit words; they
differ in the starting state and in how many words of the last state are kept.
-/

namespace CertAuthority.Hash.Sha512

/-- Fractions of the cube roots of the first eighty primes, one for each round. -/
def roundConstants : List UInt64 := [
  0x428a2f98d728ae22, 0x7137449123ef65cd, 0xb5c0fbcfec4d3b2f, 0xe9b5dba58189dbbc,
  0x3956c25bf348b538, 0x59f111f1b605d019, 0x923f82a4af194f9b, 0xab1c5ed5da6d8118,
  0xd807aa98a3030242, 0x12835b0145706fbe, 0x243185be4ee4b28c, 0x550c7dc3d5ffb4e2,
  0x72be5d74f27b896f, 0x80deb1fe3b1696b1, 0x9bdc06a725c71235, 0xc19bf174cf692694,
  0xe49b69c19ef14ad2, 0xefbe4786384f25e3, 0x0fc19dc68b8cd5b5, 0x240ca1cc77ac9c65,
  0x2de92c6f592b0275, 0x4a7484aa6ea6e483, 0x5cb0a9dcbd41fbd4, 0x76f988da831153b5,
  0x983e5152ee66dfab, 0xa831c66d2db43210, 0xb00327c898fb213f, 0xbf597fc7beef0ee4,
  0xc6e00bf33da88fc2, 0xd5a79147930aa725, 0x06ca6351e003826f, 0x142929670a0e6e70,
  0x27b70a8546d22ffc, 0x2e1b21385c26c926, 0x4d2c6dfc5ac42aed, 0x53380d139d95b3df,
  0x650a73548baf63de, 0x766a0abb3c77b2a8, 0x81c2c92e47edaee6, 0x92722c851482353b,
  0xa2bfe8a14cf10364, 0xa81a664bbc423001, 0xc24b8b70d0f89791, 0xc76c51a30654be30,
  0xd192e819d6ef5218, 0xd69906245565a910, 0xf40e35855771202a, 0x106aa07032bbd1b8,
  0x19a4c116b8d2d0c8, 0x1e376c085141ab53, 0x2748774cdf8eeb99, 0x34b0bcb5e19b48a8,
  0x391c0cb3c5c95a63, 0x4ed8aa4ae3418acb, 0x5b9cca4f7763e373, 0x682e6ff3d6b2b8a3,
  0x748f82ee5defb2fc, 0x78a5636f43172f60, 0x84c87814a1f0ab72, 0x8cc702081a6439ec,
  0x90befffa23631e28, 0xa4506cebde82bde9, 0xbef9a3f7b2c67915, 0xc67178f2e372532b,
  0xca273eceea26619c, 0xd186b8c721c0c207, 0xeada7dd6cde0eb1e, 0xf57d4f7fee6ed178,
  0x06f067aa72176fba, 0x0a637dc5a2c898a6, 0x113f9804bef90dae, 0x1b710b35131c471b,
  0x28db77f523047d84, 0x32caab7b40c72493, 0x3c9ebe0a15c9bebc, 0x431d67c49c100d4c,
  0x4cc5d4becb3e42b6, 0x597f299cfc657e2a, 0x5fcb6fab3ad6faec, 0x6c44198c4a475817]

/-- The eight chaining words. -/
structure State where
  a : UInt64
  b : UInt64
  c : UInt64
  d : UInt64
  e : UInt64
  f : UInt64
  g : UInt64
  h : UInt64

/-- Fractions of the square roots of the first eight primes. -/
def initial512 : State :=
  ⟨0x6a09e667f3bcc908, 0xbb67ae8584caa73b,
    0x3c6ef372fe94f82b, 0xa54ff53a5f1d36f1,
    0x510e527fade682d1, 0x9b05688c2b3e6c1f,
    0x1f83d9abfb41bd6b, 0x5be0cd19137e2179⟩

/-- Fractions of the square roots of the ninth to sixteenth primes. -/
def initial384 : State :=
  ⟨0xcbbb9d5dc1059ed8, 0x629a292a367cd507,
    0x9159015a3070dd17, 0x152fecd8f70e5939,
    0x67332667ffc00b31, 0x8eb44a8768581511,
    0xdb0c2e0d64f98fa7, 0x47b5481dbefa4fa4⟩

/-- Rotation of a word to the right. -/
def rotateRight (word : UInt64) (amount : UInt64) : UInt64 :=
  (word >>> amount) ||| (word <<< (64 - amount))

/-- Reads eight octets as one word, most significant first. -/
def word (octets : Octets) : UInt64 :=
  octets.foldl (fun value octet => (value <<< 8) ||| octet.toUInt64) 0

/-- Reads octets eight at a time; a shorter remainder is dropped. -/
def words : Octets → List UInt64
  | b0 :: b1 :: b2 :: b3 :: b4 :: b5 :: b6 :: b7 :: rest =>
      word [b0, b1, b2, b3, b4, b5, b6, b7] :: words rest
  | _ => []

/-- The message followed by a one bit, zeros to a full block, and its length in bits. -/
def pad (message : Octets) : Octets :=
  let zeros := (239 - message.length % 128) % 128
  message ++ 0x80 :: (List.replicate zeros 0 ++ Octets.ofNatPadded 16 (8 * message.length))

/-- Appends the next word of the message schedule to the words so far. -/
def extendSchedule (schedule : Array UInt64) : Array UInt64 :=
  let size := schedule.size
  let older := schedule.getD (size - 15) 0
  let newer := schedule.getD (size - 2) 0
  let small := rotateRight older 1 ^^^ rotateRight older 8 ^^^ (older >>> 7)
  let large := rotateRight newer 19 ^^^ rotateRight newer 61 ^^^ (newer >>> 6)
  schedule.push (schedule.getD (size - 16) 0 + small + schedule.getD (size - 7) 0 + large)

/-- The eighty schedule words of a block of sixteen. -/
def schedule (block : List UInt64) : Array UInt64 :=
  (List.range 64).foldl (fun words _ => extendSchedule words) block.toArray

/-- One round on the chaining words. -/
def round (s : State) (constant input : UInt64) : State :=
  let large := rotateRight s.e 14 ^^^ rotateRight s.e 18 ^^^ rotateRight s.e 41
  let choice := (s.e &&& s.f) ^^^ ((~~~ s.e) &&& s.g)
  let first := s.h + large + choice + constant + input
  let small := rotateRight s.a 28 ^^^ rotateRight s.a 34 ^^^ rotateRight s.a 39
  let majority := (s.a &&& s.b) ^^^ (s.a &&& s.c) ^^^ (s.b &&& s.c)
  ⟨first + (small + majority), s.a, s.b, s.c, s.d + first, s.e, s.f, s.g⟩

/-- Folds a block into the chaining words. -/
def compress (s : State) (block : List UInt64) : State :=
  let t := (roundConstants.zip (schedule block).toList).foldl
    (fun state pair => round state pair.1 pair.2) s
  ⟨s.a + t.a, s.b + t.b, s.c + t.c, s.d + t.d, s.e + t.e, s.f + t.f, s.g + t.g, s.h + t.h⟩

/-- Folds all blocks of sixteen words; `count` bounds how many there are. -/
def absorb (s : State) : (count : Nat) → List UInt64 → State
  | 0, _ => s
  | count + 1, input => absorb (compress s (input.take 16)) count (input.drop 16)

/-- The chaining words after the whole padded message. -/
def run (initial : State) (message : Octets) : State :=
  let input := words (pad message)
  absorb initial (input.length / 16) input

/-- The chaining words in order. -/
def State.toOctets (s : State) : Octets :=
  [s.a, s.b, s.c, s.d, s.e, s.f, s.g, s.h].flatMap
    fun value => Octets.ofNatPadded 8 value.toNat

/-- The SHA-512 digest. -/
def sha512 (message : Octets) : Octets :=
  (run initial512 message).toOctets

/-- The SHA-384 digest: six of the eight last words. -/
def sha384 (message : Octets) : Octets :=
  (run initial384 message).toOctets.take 48

end CertAuthority.Hash.Sha512
