import CertAuthority.Proofs.Issuance.Failures
import CertAuthority.Proofs.Key.Generate

/-!
# Keys that are loaded or made

Loading a key fails with an encoding error and leaves everything as it was, or
gives a key and reports the one encoding it was in.  Making a key never runs
into a size without a curve: the sizes that are accepted are those of the
curves.  The check of the numbers of an RSA key never subtracts below zero and
never divides by zero, whatever the numbers are.

The algorithm and the size that are recorded for a key agree with its key pair,
whichever of these ways it comes from; so there is a signature algorithm for
them, and the key pair signs with it (`Key.IsConsistent`).  For other algorithms
and sizes there need not be one, and the program would end
(`KeyAlgorithm.signatureAlgorithm?_eq_none_iff`,
`KeyPair.generate_eq_unexpectedKeySize_iff`).
-/

namespace CertAuthority

/-! ## Algorithm and size -/

/-- There is no signature algorithm for keys on curves of a size that no curve has. -/
theorem KeyAlgorithm.signatureAlgorithm?_eq_none_iff {algorithm : KeyAlgorithm} {size : Nat} :
    algorithm.signatureAlgorithm? size = none ↔
      algorithm = .ecdsa ∧ size ≠ 256 ∧ size ≠ 384 ∧ size ≠ 521 := by
  cases algorithm with
  | ecdsa =>
      constructor
      · intro none
        refine ⟨rfl, ?_, ?_, ?_⟩ <;> rintro rfl <;> cases none
      · rintro ⟨_, first, second, third⟩
        rw [signatureAlgorithm?] <;> assumption
  | rsa =>
      constructor
      · intro none
        rw [signatureAlgorithm?] at none
        split at none
        · cases none
        · split at none <;> cases none
      · rintro ⟨foreign, _⟩
        cases foreign

/-- What holds of a key because its algorithm and its size agree with its key pair. -/
structure Key.IsConsistent (key : Key) : Prop where
  agrees : key.pair.Agrees key.algorithm key.size
  /-- The signature algorithm for the algorithm and the size is the one of the key pair. -/
  signatureAlgorithm : key.algorithm.signatureAlgorithm? key.size = some key.pair.signatureAlgorithm
  /-- Signing does not end the program, and the key pair is one for the signature algorithm. -/
  signs : ∀ data, Operation.FailsWithin (· = .signingFailed) (key.sign data)
  publicKeyOid : key.publicKeyOid = key.publicKeyInfo.algorithm.oid

theorem KeyPair.oid_publicKeyInfo (pair : KeyPair) :
    pair.publicKeyInfo.algorithm.oid = pair.publicKeyOid := by
  cases pair <;> rfl

/-- Keys are of the algorithm that their public key names. -/
theorem Key.publicKeyOid_eq (key : Key) : key.publicKeyOid = key.publicKeyInfo.algorithm.oid := by
  rw [publicKeyInfo, KeyPair.oid_publicKeyInfo, publicKeyOid, key.algorithm_eq]
  cases key.pair <;> rfl

theorem Key.isConsistent (key : Key) : key.IsConsistent where
  agrees := key.agrees
  signatureAlgorithm := key.signatureAlgorithm?_eq_pair
  signs data := (key.sign_failsWithin data).mono fun _ failed => failed.1
  publicKeyOid := key.publicKeyOid_eq

/-! ## The numbers of an RSA key -/

namespace Rsa

/-- A difference, unless it is below zero. -/
def difference? (value subtrahend : Nat) : Option Nat :=
  if subtrahend ≤ value then some (value - subtrahend) else none

/-- A remainder, unless the divisor is zero. -/
def remainder? (value divisor : Nat) : Option Nat :=
  if divisor = 0 then none else some (value % divisor)

/-- Whether the exponents undo each other for a factor, in steps that may have no result. -/
def undoes? (publicKey : PublicKey) (privateExponent factor : Nat) : Option Bool := do
  let order ← difference? factor 1
  let residue ← remainder? (publicKey.exponent * privateExponent) order
  return residue == 1

/-- The check of two factors, in steps that may have no result. -/
def areFactors? (publicKey : PublicKey) (privateExponent first second : Nat) : Option Bool := do
  if first ≤ 1 then return false
  if second ≤ 1 then return false
  if first * second ≠ publicKey.modulus then return false
  if !(← undoes? publicKey privateExponent first) then return false
  undoes? publicKey privateExponent second

theorem undoes?_eq {publicKey : PublicKey} {privateExponent factor : Nat} (above : 1 < factor) :
    undoes? publicKey privateExponent factor =
      some (publicKey.exponent * privateExponent % (factor - 1) == 1) := by
  have order : difference? factor 1 = some (factor - 1) := if_pos above.le
  have nonzero : factor - 1 ≠ 0 := Nat.sub_ne_zero_of_lt above
  simp [undoes?, order, remainder?, nonzero]

/-- Every step of the check has a result, whatever the numbers are. -/
theorem areFactors?_eq (publicKey : PublicKey) (privateExponent first second : Nat) :
    areFactors? publicKey privateExponent first second =
      some (areFactors publicKey privateExponent first second) := by
  unfold areFactors? areFactors
  by_cases firstAbove : 1 < first
  · by_cases secondAbove : 1 < second
    · rw [if_neg firstAbove.not_ge, if_neg secondAbove.not_ge]
      simp only [undoes?_eq firstAbove, undoes?_eq secondAbove, firstAbove, secondAbove]
      by_cases product : first * second = publicKey.modulus
      · by_cases undone : publicKey.exponent * privateExponent % (first - 1) = 1
        · simp [product, undone]
        · simp [product, undone]
      · simp [product]
    · simp [secondAbove, Nat.not_lt.mp secondAbove]
  · simp [firstAbove, Nat.not_lt.mp firstAbove]

end Rsa

/-! ## Loading -/

/-- What loading does: nothing but an encoding error if the octets of the first block are no key,
or else a key and a report of its encoding. -/
theorem Key.load_cases (file : Octets) (environment : Environment) :
    ((∀ octets, Pem.find? file = some octets → ∀ container : KeyContainer,
        container.pair? octets = none) ∧
      ∃ error, load file environment = .error error environment ∧ error.kind = .encoding) ∨
    ∃ octets container pair, Pem.find? file = some octets ∧ container.pair? octets = some pair ∧
      load file environment = .ok (ofPair pair file)
        { environment with events := environment.events ++ [.loadedKey container] } := by
  cases known : read file with
  | error error =>
      have refused := of_read_eq_error known
      exact Or.inl ⟨refused.2, error, load_eq_error.mpr ⟨known, rfl⟩, refused.1⟩
  | ok found =>
      rcases found with ⟨container, key⟩
      rcases read_eq_ok.mp known with ⟨rfl, octets, block, read⟩
      refine Or.inr ⟨octets, container, key.pair, block, read, ?_⟩
      rw [← key.eq_ofPair]
      exact load_eq_ok.mpr ⟨container, known, rfl⟩

/-! ## Making -/

theorem KeyPair.generate_ecdsa_of_ne {size : Nat} (first : size ≠ 256) (second : size ≠ 384)
    (third : size ≠ 521) : generate .ecdsa size = throw (.unexpectedKeySize size) := by
  rw [generate] <;> assumption

/-- Making a key pair ends the program for sizes that no curve has. -/
theorem KeyPair.generate_eq_unexpectedKeySize_iff {algorithm : KeyAlgorithm} {size bits : Nat}
    {environment after : Environment} :
    generate algorithm size environment = .error (.unexpectedKeySize bits) after ↔
      (algorithm = .ecdsa ∧ size ≠ 256 ∧ size ≠ 384 ∧ size ≠ 521) ∧ bits = size ∧
        after = environment := by
  cases algorithm with
  | ecdsa =>
      constructor
      · intro ended
        have noCurve : size ≠ 256 ∧ size ≠ 384 ∧ size ≠ 521 := by
          refine ⟨?_, ?_, ?_⟩ <;> rintro rfl <;> cases ended
        rw [generate_ecdsa_of_ne noCurve.1 noCurve.2.1 noCurve.2.2] at ended
        cases ended
        exact ⟨⟨rfl, noCurve⟩, rfl, rfl⟩
      · rintro ⟨⟨_, first, second, third⟩, rfl, rfl⟩
        rw [generate_ecdsa_of_ne first second third]
        rfl
  | rsa =>
      refine iff_of_false (fun ended => ?_) (fun claimed => nomatch claimed.1.1)
      cases generate_rsa_failsWithin size _ _ _ ended

/-- A key on a curve is always made. -/
theorem Key.exists_generate_ecdsa {size : Nat}
    (accepted : KeyAlgorithm.ecdsa.acceptsSize size = true) (environment : Environment) :
    ∃ key after, generate .ecdsa size environment = .ok key after := by
  have checked : KeyAlgorithm.ecdsa.validateSize size = .ok () := if_pos accepted
  rcases KeyPair.exists_generate_ecdsa accepted (environment.reporting
    [.generatingKey .ecdsa (KeyAlgorithm.ecdsa.resolveSize size)]) with ⟨pair, after, made⟩
  rw [generate, checked]
  exact ⟨_, _, Operation.bind_eq_ok.mpr ⟨(), _, rfl, Operation.bind_eq_ok.mpr ⟨(), _, rfl,
    Operation.bind_eq_ok.mpr ⟨pair, after, made, rfl⟩⟩⟩⟩

/-! ## Every key -/

/-- What is known of a key that was loaded: the first block of the file holds its key pair in one
encoding and in no other. -/
structure Key.IsLoaded (key : Key) (file : Octets) (container : KeyContainer) : Prop where
  file_eq : key.file = file
  found : ∃ octets, Pem.find? file = some octets ∧ container.pair? octets = some key.pair ∧
    ∀ other : KeyContainer, other ≠ container → other.pair? octets = none

theorem KeyContainer.pair?_eq_none {container other : KeyContainer} {octets : Octets}
    {pair : KeyPair} (read : container.pair? octets = some pair) (different : other ≠ container) :
    other.pair? octets = none := by
  cases otherRead : other.pair? octets with
  | none => rfl
  | some otherPair => exact absurd (eq_of_pair? read otherRead) different

/-- Loading gives an encoding error and nothing else if the first block of the file is no key, or a
key of the file and one report of its encoding.  Making a key refuses the sizes that are not
accepted, always gives a key on a curve, and gives an RSA key unless no primes are found; the key
has the algorithm and the size that were asked for.  Every key is consistent, and the numbers of any
RSA key can be checked. -/
theorem Key.load_generate_isConsistent :
    (∀ file environment,
      ((∀ octets, Pem.find? file = some octets → ∀ container : KeyContainer,
          container.pair? octets = none) ∧
        ∃ error, load file environment = .error error environment ∧ error.kind = .encoding) ∨
        ∃ key container, load file environment = .ok key
            { environment with events := environment.events ++ [.loadedKey container] } ∧
          key.IsLoaded file container ∧ key.IsConsistent) ∧
    (∀ algorithm size environment,
      (algorithm.acceptsSize size = false → generate algorithm size environment =
        .error (.invalidKeySize algorithm size) environment) ∧
      (algorithm.acceptsSize size = true →
        (∃ key after, generate algorithm size environment = .ok key after) ∨
          algorithm = .rsa ∧
            ∃ after, generate algorithm size environment = .error .keyGenerationFailed after) ∧
      ∀ key after, generate algorithm size environment = .ok key after →
        key.algorithm = algorithm ∧ key.size = algorithm.resolveSize size ∧ key.IsConsistent) ∧
    ∀ publicKey privateExponent first second,
      Rsa.areFactors? publicKey privateExponent first second =
        some (Rsa.areFactors publicKey privateExponent first second) := by
  refine ⟨fun file environment => ?_, fun algorithm size environment => ⟨?_, ?_, ?_⟩,
    Rsa.areFactors?_eq⟩
  · rcases load_cases file environment with refused | ⟨octets, container, pair, block, read,
      loaded⟩
    · exact Or.inl refused
    · exact Or.inr ⟨ofPair pair file, container, loaded, ⟨rfl, octets, block, read,
        fun _ different => KeyContainer.pair?_eq_none read different⟩, isConsistent _⟩
  · exact fun refused => generate_of_not_accepted refused environment
  · intro accepted
    cases outcome : generate algorithm size environment with
    | ok key after => exact Or.inl ⟨key, after, rfl⟩
    | error error after =>
        obtain rfl := generate_failsWithin_of_accepted accepted environment error after outcome
        cases algorithm with
        | rsa => exact Or.inr ⟨rfl, after, rfl⟩
        | ecdsa =>
            rcases exists_generate_ecdsa accepted environment with ⟨key, between, made⟩
            rw [made] at outcome
            cases outcome
  · intro key after made
    have isMade := isMade_of_generate made
    exact ⟨isMade.algorithm_eq, isMade.size_eq, isConsistent key⟩

end CertAuthority
