import CertAuthority.Key.Stored
import CertAuthority.Proofs.Hash.Digest
import CertAuthority.Proofs.Operation
import CertAuthority.Proofs.Rsa.Generate
import CertAuthority.Proofs.Rsa.Signature

/-!
# Signing with keys

A key is its key pair and its file: the algorithm and the size beside them are
settled by the pair (`Key.eq_ofPair`).  So the signature algorithm that a key
takes for its size is the one of its pair, and signing with the key is signing
with the pair and that algorithm (`Key.sign_eq`).

What signing does is found for each kind of key.  An RSA key of two different
primes always signs, if a padded digest fits into its modulus.
-/

namespace CertAuthority

theorem SignatureAlgorithm.ofOid?_oid (algorithm : SignatureAlgorithm) :
    ofOid? algorithm.oid = some algorithm := by
  cases algorithm <;> decide

/-! ## A key and its pair -/

namespace Key

@[simp]
theorem pair_ofPair (pair : KeyPair) (file : Octets) : (ofPair pair file).pair = pair := rfl

/-- There is one key for a pair and a file, however it was obtained. -/
theorem eq_ofPair (key : Key) : key = ofPair key.pair key.file := by
  rcases key with ⟨algorithm, size, pair, file, agrees⟩
  rcases agrees.unique pair.agrees with ⟨rfl, rfl⟩
  rfl

theorem algorithm_eq (key : Key) : key.algorithm = key.pair.algorithm :=
  (key.agrees.unique key.pair.agrees).1

theorem size_eq (key : Key) : key.size = key.pair.size :=
  (key.agrees.unique key.pair.agrees).2

theorem signatureAlgorithm_eq (key : Key) :
    key.signatureAlgorithm = key.pair.signatureAlgorithm :=
  Option.some.inj (key.signatureAlgorithm?_eq.symm.trans key.signatureAlgorithm?_eq_pair)

end Key

/-- Signs data with the algorithm of the key pair. -/
def KeyPair.sign (pair : KeyPair) (data : Octets) : Operation Octets :=
  pair.signWith pair.signatureAlgorithm data

theorem Key.sign_eq (key : Key) (data : Octets) : key.sign data = key.pair.sign data := by
  rw [sign, takeAlgorithm_eq, pure_bind, signatureAlgorithm_eq, KeyPair.sign]

/-! ## Signing with a pair -/

namespace KeyPair

theorem isRsa_rsaSignatureAlgorithm (bits : Nat) : (rsaSignatureAlgorithm bits).isRsa = true := by
  unfold rsaSignatureAlgorithm
  split
  · rfl
  · split <;> rfl

theorem sign_rsa (key : Rsa.PrivateKey) (message : Octets) :
    (rsa key).sign message = Operation.ofOption .signingFailed
      (key.sign? (rsaSignatureAlgorithm key.publicKey.bitLength).hash message) :=
  if_pos (isRsa_rsaSignatureAlgorithm _)

theorem sign_ecdsa (curve : NistCurve) (scalar : NistCurve.Scalar curve) (message : Octets) :
    (ecdsa curve scalar).sign message = do
      let digest := curve.signatureAlgorithm.hash.digest message
      let nonce ← signatureNonce curve scalar digest
      let signature ← Operation.ofOption .signingFailed (Ecdsa.sign? curve scalar nonce digest)
      return signature.encode :=
  if_pos rfl

/-- A signature of an elliptic-curve key is the written form of one for the digest. -/
theorem exists_of_sign_ecdsa {curve : NistCurve} {scalar : NistCurve.Scalar curve}
    {message signature : Octets} {environment after : Environment}
    (signed : (ecdsa curve scalar).sign message environment = .ok signature after) :
    ∃ nonce made, Ecdsa.sign? curve scalar nonce (curve.signatureAlgorithm.hash.digest message) =
      some made ∧ made.encode = signature := by
  rw [sign_ecdsa] at signed
  rcases Operation.bind_eq_ok.mp signed with ⟨nonce, _, _, signed⟩
  rcases Operation.bind_eq_ok.mp signed with ⟨made, _, making, signed⟩
  exact ⟨nonce, made, (Operation.ofOption_eq_ok.mp making).1, (Operation.pure_eq_ok.mp signed).1⟩

/-- The longest padded digest fits into a modulus of this many octets. -/
def longestPadding : Nat := 94

theorem length_digestHeader_add (hash : Hash.Algorithm) (message : Octets) :
    (Rsa.digestHeader hash ++ hash.digest message).length + 11 ≤ longestPadding := by
  rw [List.length_append, Hash.Algorithm.length_digest]
  cases hash <;> decide

/-- A key of two different primes signs every message. -/
theorem exists_sign_rsa {key : Rsa.PrivateKey} (first : key.firstFactor.Prime)
    (second : key.secondFactor.Prime) (different : key.firstFactor ≠ key.secondFactor)
    (large : longestPadding ≤ key.publicKey.size) (message : Octets) (environment : Environment) :
    ∃ signature, (rsa key).sign message environment = .ok signature environment ∧
      signature.length = key.publicKey.size := by
  obtain ⟨padded, fits⟩ := Rsa.exists_padded? (rsaSignatureAlgorithm key.publicKey.bitLength).hash
    message ((length_digestHeader_add _ message).trans large)
  rcases key.exists_sign? first second different fits with ⟨signature, signed⟩
  refine ⟨signature, ?_, key.length_of_sign? signed⟩
  rw [sign_rsa, Operation.ofOption_eq_ok]
  exact ⟨signed, rfl⟩

theorem exists_sign_of_isFirst {key : Rsa.PrivateKey} {bits : Nat} {entropy : Entropy}
    (isFirst : key.IsFirstOf bits entropy) (many : 8 * longestPadding ≤ bits) (message : Octets)
    (environment : Environment) : ∃ signature,
      (rsa key).sign message environment = .ok signature environment ∧
        signature.length = key.publicKey.size := by
  have made := (Rsa.keyOfPrimes?_eq_some isFirst.found).1
  have octets := key.publicKey.bitLength_le
  rw [made.bitLength] at octets
  exact exists_sign_rsa isFirst.firstPrime isFirst.secondPrime made.different (by omega) message
    environment

end KeyPair

end CertAuthority
