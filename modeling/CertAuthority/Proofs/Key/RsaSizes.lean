import CertAuthority.Proofs.Key.Wrapped
import CertAuthority.Proofs.Verification

/-!
# Sizes of RSA keys

A request may ask for RSA keys of 2048 to 8192 bits.  Two odd primes of such a
product are the numbers of a key, which is loaded from both of its encodings and
signs certificates.  Signatures are checked with keys of up to 4096 bits only, so
that the certificates of longer keys, though issued, are never accepted.
-/

namespace CertAuthority

open X509 (Certificate)

namespace Rsa

/-- Two primes and a private exponent that undoes the usual exponent for both. -/
structure AreKeyNumbers (first second privateExponent : Nat) : Prop where
  firstPrime : first.Prime
  secondPrime : second.Prime
  firstInverse : usualExponent * privateExponent ≡ 1 [MOD first - 1]
  secondInverse : usualExponent * privateExponent ≡ 1 [MOD second - 1]

/-- The public key of two primes. -/
def publicKeyOf (first second : Nat) : PublicKey :=
  ⟨first * second, usualExponent⟩

namespace AreKeyNumbers

variable {first second privateExponent : Nat}

theorem mod_eq_one {factor : Nat} (prime : factor.Prime) (odd : factor ≠ 2)
    (inverse : usualExponent * privateExponent ≡ 1 [MOD factor - 1]) :
    usualExponent * privateExponent % (factor - 1) = 1 := by
  have large : 2 < factor := lt_of_le_of_ne prime.two_le odd.symm
  rw [inverse, Nat.mod_eq_of_lt (by omega)]

theorem isSound_publicKeyOf (firstOdd : Odd first) (secondOdd : Odd second)
    (large : 17 < (publicKeyOf first second).bitLength) :
    (publicKeyOf first second).isSound = true := by
  have wide : 2 ^ 17 ≤ first * second := by
    unfold PublicKey.bitLength at large
    split at large
    · contradiction
    · rename_i nonzero
      exact (Nat.le_log2 nonzero).mp (Nat.le_of_lt_succ large)
  have odd : first * second % 2 = 1 := Nat.odd_iff.mp (firstOdd.mul secondOdd)
  have exponent : usualExponent < first * second := Nat.lt_of_lt_of_le (by decide) wide
  have usual : usualExponent % 2 = 1 ∧ 2 ≤ usualExponent ∧
      usualExponent ≤ PublicKey.maxExponent := by decide
  simp only [PublicKey.isSound, Bool.and_eq_true, decide_eq_true_eq, beq_iff_eq]
  exact ⟨⟨⟨⟨exponent, odd⟩, usual.1⟩, usual.2.1⟩, usual.2.2⟩

/-- The numbers are those of a key unless one of the primes is even. -/
theorem exists_ofNumbers?_iff (numbers : AreKeyNumbers first second privateExponent)
    (large : 17 < (publicKeyOf first second).bitLength) :
    (∃ key, PrivateKey.ofNumbers? (publicKeyOf first second) privateExponent first second =
      some key) ↔ first ≠ 2 ∧ second ≠ 2 := by
  constructor
  · rintro ⟨key, found⟩
    have sound := key.isSound
    rw [(PrivateKey.ofNumbers?_eq_some found).1] at sound
    simp only [PublicKey.isSound, publicKeyOf, Bool.and_eq_true, beq_iff_eq] at sound
    have odd := Nat.odd_mul.mp (Nat.odd_iff.mpr sound.1.1.1.2)
    constructor
    · rintro rfl
      exact absurd odd.1 (by decide)
    · rintro rfl
      exact absurd odd.2 (by decide)
  · rintro ⟨firstOdd, secondOdd⟩
    have sound := isSound_publicKeyOf (numbers.firstPrime.odd_of_ne_two firstOdd)
      (numbers.secondPrime.odd_of_ne_two secondOdd) large
    have factors : areFactors (publicKeyOf first second) privateExponent first second = true := by
      simp [areFactors, publicKeyOf, numbers.firstPrime.one_lt, numbers.secondPrime.one_lt,
        mod_eq_one numbers.firstPrime firstOdd numbers.firstInverse,
        mod_eq_one numbers.secondPrime secondOdd numbers.secondInverse]
    exact ⟨_, dif_pos (by rw [sound, factors]; rfl)⟩

end AreKeyNumbers

end Rsa

/-- A modulus that is not zero has an accepted size only if it has 2048 to 8192 bits. -/
theorem Rsa.AreKeyNumbers.bitLength_bounds {first second privateExponent : Nat}
    (numbers : AreKeyNumbers first second privateExponent)
    (accepted : KeyAlgorithm.rsa.acceptsSize (publicKeyOf first second).bitLength = true) :
    KeyAlgorithm.minRsaSize ≤ (publicKeyOf first second).bitLength ∧
      (publicKeyOf first second).bitLength ≤ KeyAlgorithm.maxRsaSize := by
  have nonzero : first * second ≠ 0 :=
    Nat.mul_ne_zero numbers.firstPrime.ne_zero numbers.secondPrime.ne_zero
  have positive : (publicKeyOf first second).bitLength ≠ 0 := by
    simp [PublicKey.bitLength, publicKeyOf, nonzero]
  have bounds := KeyAlgorithm.resolveSize_rsa_le accepted
  rwa [KeyAlgorithm.resolveSize, if_neg positive] at bounds

/-- A key of two different primes signs every message. -/
theorem Rsa.AreKeyNumbers.exists_sign {first second privateExponent : Nat} {key : PrivateKey}
    (numbers : AreKeyNumbers first second privateExponent)
    (found : PrivateKey.ofNumbers? (publicKeyOf first second) privateExponent first second =
      some key) (different : first ≠ second)
    (large : KeyAlgorithm.minRsaSize ≤ (publicKeyOf first second).bitLength) (message : Octets)
    (environment : Environment) :
    ∃ signature, (KeyPair.rsa key).sign message environment = .ok signature environment ∧
      signature.length = key.publicKey.size := by
  rcases PrivateKey.ofNumbers?_eq_some found with ⟨publicKey, _, rfl, rfl⟩
  have octets := key.publicKey.bitLength_le
  rw [publicKey] at octets
  refine KeyPair.exists_sign_rsa numbers.firstPrime numbers.secondPrime different ?_ message
    environment
  rw [publicKey, KeyPair.longestPadding]
  rw [KeyAlgorithm.minRsaSize] at large
  omega

/-! ## Loading -/

/-- The encodings of a key whose numbers have a million octets at most can be written. -/
theorem KeyPair.isWritable_rsa {key : Rsa.PrivateKey} {width : Nat} (few : width < 1000000)
    (modulus : key.publicKey.modulus < 256 ^ width)
    (privateExponent : key.privateExponent < 256 ^ width) : (rsa key).IsWritable := by
  have octets := key.length_encode_le_width few modulus privateExponent
  have field : (Der.encodeOctetString key.encode).length ≤ 9 * (width + 7) + 12 :=
    (Der.length_encode_le _ (octets.trans (by unfold Der.maxLength; omega))).trans
      (Nat.add_le_add_right octets 6)
  have zero : (Der.encodeUnsigned 0).length = 3 := by decide
  have algorithm : rsaKeyIdentifier.encode.length = 15 := by decide
  have content : (Der.encodeUnsigned 0 ++ rsaKeyIdentifier.encode ++
      Der.encodeOctetString key.encode).length ≤ 9 * (width + 7) + 30 := by
    simp only [List.length_append, zero, algorithm]
    omega
  refine ((Der.length_encode_le _ (content.trans ?_)).trans
    (Nat.add_le_add_right content 6)).trans ?_
  all_goals
    unfold Der.maxLength
    omega

/-! ## Certificates -/

/-- A certificate that the subject signs for its own RSA key is accepted with itself unless the
modulus is longer than signatures are checked with. -/
theorem Issuer.verifyIssuedBy_self_rsa {key : Rsa.PrivateKey} {name : X509.Name} {file : Octets}
    {template : CertificateTemplate} {environment after : Environment} {certificate : Certificate}
    (publicKey : template.publicKey = (KeyPair.rsa key).publicKeyInfo)
    (issued : (Issuer.subject name (Key.ofPair (.rsa key) file)).issue template environment =
      .ok certificate after) :
    certificate.verifyIssuedBy certificate =
      if key.publicKey.bitLength ≤ maxCheckedRsaBits then .ok ()
      else .error .malformedPublicKey := by
  have checked := Issuer.verifyIssuedBy_certificateFor issued publicKey
  refine checked.trans ?_
  have unchecked := KeyPair.isUnchecked_rsa key
  split
  · rename_i short
    exact if_neg (mt unchecked.mp short.not_gt)
  · rename_i long
    exact if_pos (unchecked.mpr (Nat.lt_of_not_le long))

/-- Two primes whose product has a size that may be asked for are the numbers of a key unless one of
them is even.  The key is loaded from both of its encodings, tells its size and signs, if the primes
differ; the certificates that it signs for itself are accepted for moduli of up to 4096 bits. -/
theorem Rsa.AreKeyNumbers.load_and_verify {first second privateExponent : Nat}
    (numbers : AreKeyNumbers first second privateExponent)
    (accepted : KeyAlgorithm.validate "rsa" (publicKeyOf first second).bitLength = .ok .rsa) :
    ((∃ key, PrivateKey.ofNumbers? (publicKeyOf first second) privateExponent first second =
        some key) ↔ first ≠ 2 ∧ second ≠ 2) ∧
      ∀ key, PrivateKey.ofNumbers? (publicKeyOf first second) privateExponent first second =
          some key → (KeyPair.rsa key).IsWritable →
        ∀ label otherLabel, Pem.IsLabel label → Pem.IsLabel otherLabel → ∀ environment,
          ∃ loaded unwrapped after last,
            Key.load (Pem.encode label key.encode) environment = .ok loaded after ∧
              Key.load (Pem.encode otherLabel (KeyPair.rsa key).wrapped.encode) environment =
                  .ok unwrapped last ∧
                ∀ holder ∈ [loaded, unwrapped],
                  holder.pair = .rsa key ∧
                    holder.size = (publicKeyOf first second).bitLength ∧
                      (first ≠ second → ∀ message start, ∃ signature,
                        holder.sign message start = .ok signature start) ∧
                      ∀ name template start certificate final,
                        template.publicKey = holder.publicKeyInfo →
                        (Issuer.subject name holder).issue template start =
                            .ok certificate final →
                          certificate.verifyIssuedBy certificate =
                            if (publicKeyOf first second).bitLength ≤ maxCheckedRsaBits then .ok ()
                            else .error .malformedPublicKey := by
  have bounds := numbers.bitLength_bounds (KeyAlgorithm.acceptsSize_of_validate accepted)
  refine ⟨numbers.exists_ofNumbers?_iff (Nat.lt_of_lt_of_le (by decide) bounds.1), ?_⟩
  intro key found writable label otherLabel isLabel otherIsLabel environment
  have publicKey := (PrivateKey.ofNumbers?_eq_some found).1
  have short := (KeyPair.length_octets_le (.rsa key)).trans writable
  have plain := Key.load_encode isLabel (KeyPair.rsa key).octets_ne_nil
    (KeyPair.find?_octets short) environment
  have outer := Key.load_encode otherIsLabel (Der.encode_ne_nil _ _)
    (KeyPair.find?_wrapped writable) environment
  refine ⟨_, _, _, _, plain, outer, fun holder member => ?_⟩
  obtain ⟨file, rfl⟩ : ∃ file, holder = Key.ofPair (.rsa key) file := by
    rcases List.mem_cons.mp member with rfl | member
    · exact ⟨_, rfl⟩
    · exact ⟨_, List.mem_singleton.mp member⟩
  refine ⟨rfl, congrArg PublicKey.bitLength publicKey, ?_, ?_⟩
  · intro different message start
    rcases numbers.exists_sign found different bounds.1 message start with ⟨signature, signed, _⟩
    exact ⟨signature, (Key.sign_eq _ _).symm ▸ signed⟩
  intro name template start certificate final certified issued
  rw [← publicKey]
  exact Issuer.verifyIssuedBy_self_rsa certified issued

/-! ### Two keys -/

namespace Rsa.PrivateKey.IsFirstOf

variable {key : Rsa.PrivateKey} {bits : Nat} {entropy : Entropy}

theorem publicKey_eq (isFirst : key.IsFirstOf bits entropy) :
    key.publicKey = publicKeyOf key.firstFactor key.secondFactor :=
  publicKey_of_keyOfPrimes? isFirst.found

theorem areKeyNumbers (isFirst : key.IsFirstOf bits entropy) :
    AreKeyNumbers key.firstFactor key.secondFactor key.privateExponent := by
  have exponent : key.publicKey.exponent = usualExponent :=
    congrArg (·.exponent) isFirst.publicKey_eq
  have first := key.firstExponent_spec
  have second := key.secondExponent_spec
  rw [exponent] at first second
  have firstInverse := (Nat.mod_modEq (usualExponent * key.privateExponent)
    (key.firstFactor - 1)).symm
  have secondInverse := (Nat.mod_modEq (usualExponent * key.privateExponent)
    (key.secondFactor - 1)).symm
  rw [first] at firstInverse
  rw [second] at secondInverse
  exact ⟨isFirst.firstPrime, isFirst.secondPrime, firstInverse, secondInverse⟩

theorem isWritable (isFirst : key.IsFirstOf bits entropy) (few : bits ≤ 8192) :
    (KeyPair.rsa key).IsWritable := by
  have made := (keyOfPrimes?_eq_some isFirst.found).1
  have modulus : key.publicKey.modulus < 256 ^ 1024 :=
    PublicKey.modulus_lt_of_bitLength_le (made.bitLength.le.trans few)
  exact KeyPair.isWritable_rsa (by decide) modulus (made.privateExponent_lt.trans modulus)

end Rsa.PrivateKey.IsFirstOf

/-- Every part of the policy agrees on the key of 2048 bits. -/
theorem usualKey_is_loaded_and_accepted : ∃ holder after certificate final,
    Key.load (KeyPair.rsa Rsa.usualKey).file exampleEnvironment = .ok holder after ∧
      holder.size = 2048 ∧
        (Issuer.subject [] holder).issue (exampleTemplate (.rsa Rsa.usualKey))
            exampleEnvironment = .ok certificate final ∧
          certificate.verifyIssuedBy certificate = .ok () := by
  have bits : (Rsa.publicKeyOf Rsa.usualKey.firstFactor Rsa.usualKey.secondFactor).bitLength =
      2048 := by
    rw [← Rsa.usualKey_isFirst.publicKey_eq]
    exact (Rsa.keyOfPrimes?_eq_some Rsa.usualKey_isFirst.found).1.bitLength
  have found := Rsa.usualKey.ofNumbers?_numbers
  rw [Rsa.usualKey_isFirst.publicKey_eq] at found
  have wrappedLabel : Pem.IsLabel "PRIVATE KEY" := ⟨by decide, by decide, by decide⟩
  rcases Rsa.AreKeyNumbers.load_and_verify Rsa.usualKey_isFirst.areKeyNumbers
    (by rw [bits]; decide) with ⟨_, loads⟩
  rcases loads _ found (Rsa.usualKey_isFirst.isWritable (by decide)) "RSA PRIVATE KEY" "PRIVATE KEY"
    (KeyPair.rsa Rsa.usualKey).isLabel wrappedLabel exampleEnvironment with
    ⟨holder, unwrapped, after, last, loaded, _, agrees⟩
  rcases agrees _ List.mem_cons_self with ⟨pair, size, _, verifies⟩
  obtain ⟨file, rfl⟩ : ∃ file, holder = Key.ofPair (.rsa Rsa.usualKey) file :=
    ⟨holder.file, pair ▸ holder.eq_ofPair⟩
  obtain ⟨certificate, final, issued, _⟩ : ∃ certificate final,
      (Issuer.subject [] (Key.ofPair (.rsa Rsa.usualKey) file)).issue
          (exampleTemplate (.rsa Rsa.usualKey)) exampleEnvironment = .ok certificate final ∧
        certificate.encode.length ≤ Der.maxLength :=
    Issuer.exists_issue_of_isFirst Rsa.usualKey_isFirst (by decide) (by decide +kernel)
  have checked := verifies _ _ _ _ _ rfl issued
  rw [bits] at checked
  exact ⟨_, after, certificate, final, loaded, size.trans bits, issued, checked⟩

/-- The key of 4112 bits may be asked for and is loaded, but its certificates are refused. -/
theorem longKey_is_loaded_and_refused : ∃ holder after certificate final,
    Rsa.AreKeyNumbers Rsa.longKey.firstFactor Rsa.longKey.secondFactor
        Rsa.longKey.privateExponent ∧
      KeyAlgorithm.validate "rsa" 4112 = .ok .rsa ∧
        Key.load (KeyPair.rsa Rsa.longKey).file exampleEnvironment = .ok holder after ∧
          holder.size = 4112 ∧
            (Issuer.subject [] holder).issue (exampleTemplate (.rsa Rsa.longKey))
                exampleEnvironment = .ok certificate final ∧
              certificate.verifyIssuedBy certificate = .error .malformedPublicKey := by
  have made := (Rsa.keyOfPrimes?_eq_some Rsa.longKey_isFirst.found).1
  have writable := Rsa.longKey_isFirst.isWritable (by decide)
  have short := (KeyPair.length_octets_le (.rsa Rsa.longKey)).trans writable
  have loaded := Key.load_file short exampleEnvironment
  obtain ⟨certificate, final, issued, _⟩ : ∃ certificate final,
      (Issuer.subject [] (Key.ofPair (.rsa Rsa.longKey) (KeyPair.rsa Rsa.longKey).file)).issue
          (exampleTemplate (.rsa Rsa.longKey)) exampleEnvironment = .ok certificate final ∧
        certificate.encode.length ≤ Der.maxLength :=
    Issuer.exists_issue_of_isFirst Rsa.longKey_isFirst (by decide) (by decide +kernel)
  have checked := Issuer.verifyIssuedBy_self_rsa rfl issued
  rw [made.bitLength] at checked
  refine ⟨_, _, certificate, final, Rsa.longKey_isFirst.areKeyNumbers, by decide, loaded, ?_,
    issued, checked⟩
  rw [Key.size_eq, Key.pair_ofPair]
  exact made.bitLength

end CertAuthority
