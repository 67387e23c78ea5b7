import CertAuthority.Key.Container
import CertAuthority.Pem.Search

/-!
# Stored keys

A `Key` is a key pair together with its algorithm, its size and the text file it
is stored in.  `Key.load` reads such a file, whatever encoding is in it; the label
of the block is not looked at, and neither is the strength of the key.

The algorithm and the size are recorded once, when a key is loaded or made, and
everything later goes by them: which signature algorithm the key signs with, and
which identifier its public keys have.  There is no signature algorithm for most
sizes of keys on curves; a key holds the proof that its algorithm and its size are
those of its key pair, so that there always is one.
-/

namespace CertAuthority

open Der (Oid)

namespace KeyPair

/-- The algorithm that is recorded for a key pair that was loaded. -/
def algorithm : KeyPair → KeyAlgorithm
  | rsa _ => .rsa
  | ecdsa _ _ => .ecdsa

/--
The size that is recorded for a key pair that was loaded.  Keys on the smallest
curve take the default.
-/
def size : KeyPair → Nat
  | rsa key => key.publicKey.bitLength
  | ecdsa .p224 _ => KeyAlgorithm.ecdsa.defaultSize
  | ecdsa .p256 _ => 256
  | ecdsa .p384 _ => 384
  | ecdsa .p521 _ => 521

/-- What is recorded for a key pair is what it has. -/
theorem agrees (pair : KeyPair) : pair.Agrees pair.algorithm pair.size := by
  cases pair with
  | rsa key => exact ⟨rfl, Rsa.PublicKey.modulus_bounds key.isSound⟩
  | ecdsa curve scalar => cases curve <;> exact ⟨rfl, rfl⟩

end KeyPair

/-- A key pair with its algorithm, its size in bits and the file it is stored in. -/
structure Key where
  algorithm : KeyAlgorithm
  size : Nat
  pair : KeyPair
  file : Octets
  agrees : pair.Agrees algorithm size
deriving DecidableEq

namespace Key

/-- A key pair that was loaded from a file. -/
def ofPair (pair : KeyPair) (file : Octets) : Key :=
  ⟨pair.algorithm, pair.size, pair, file, pair.agrees⟩

/-- Reads a key from a text file. -/
def load (file : Octets) : Operation Key := do
  let octets ← Operation.ofOption .malformedBlock (Pem.find? file)
  let (container, pair) ← Operation.ofOption .malformedPrivateKey (KeyContainer.find? octets)
  Operation.report (.loadedKey container)
  return ofPair pair file

/-- The public key as certificates carry it. -/
def publicKeyInfo (key : Key) : X509.PublicKeyInfo := key.pair.publicKeyInfo

/-- The identifier of the algorithm of public keys. -/
def publicKeyOid (key : Key) : Oid :=
  match key.algorithm with
  | .ecdsa => ellipticCurveOid
  | .rsa => rsaOid

/-- The signature algorithm for the algorithm and the size of a key. -/
def signatureAlgorithm? (key : Key) : Option SignatureAlgorithm :=
  key.algorithm.signatureAlgorithm? key.size

theorem signatureAlgorithm?_eq_pair (key : Key) :
    key.signatureAlgorithm? = some key.pair.signatureAlgorithm :=
  key.agrees.signatureAlgorithm?_eq

/-- The signature algorithm a key signs with. -/
def signatureAlgorithm (key : Key) : SignatureAlgorithm :=
  key.signatureAlgorithm?.get (by rw [signatureAlgorithm?_eq_pair]; rfl)

theorem signatureAlgorithm?_eq (key : Key) :
    key.signatureAlgorithm? = some key.signatureAlgorithm :=
  (Option.some_get _).symm

/-- Takes the signature algorithm of a key, without which the program ends. -/
def takeAlgorithm (key : Key) : Operation SignatureAlgorithm :=
  Operation.ofOption (.unexpectedKeySize key.size) key.signatureAlgorithm?

theorem takeAlgorithm_eq (key : Key) : key.takeAlgorithm = pure key.signatureAlgorithm := by
  rw [takeAlgorithm, signatureAlgorithm?_eq]
  rfl

/-- Signs data with the algorithm of the key. -/
def sign (key : Key) (data : Octets) : Operation Octets := do
  key.pair.signWith (← key.takeAlgorithm) data

end Key

end CertAuthority
