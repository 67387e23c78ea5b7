import CertAuthority.Key.Generate
import CertAuthority.Proofs.Key.Container
import CertAuthority.Proofs.Key.Pair
import CertAuthority.Proofs.Pem.Search

/-!
# Made keys read back

Loading a key is reading it from its file (`Key.read`) and reporting the encoding
that it is in.  The file of a key pair is read as that key pair, unless it is too
long.  Made keys are short, since the sizes that may be asked for are bounded; so
a made key is always read back from its file.
-/

namespace CertAuthority

open Der (BitString)

/-! ## The file of a key pair -/

theorem EllipticCurveKey.length_encode_ofScalar_le {curve : NistCurve}
    (scalar : NistCurve.Scalar curve) : (ofScalar scalar).encode.length ≤ 256 := by
  have width : curve.params.width ≤ 66 := by cases curve <;> decide
  have coordinate := curve.length_coordinate scalar.val
  have point := scalar.length_encodePoint
  have number : (Der.encodeOctetString (curve.coordinate scalar.val)).length ≤
      (curve.coordinate scalar.val).length + 6 :=
    Der.length_encode_le _ (by rw [coordinate, Der.maxLength]; omega)
  have bits : (BitString.ofOctets (curve.encodePoint scalar.publicPoint)).encode.length ≤ 140 := by
    have few : (curve.encodePoint scalar.publicPoint).length ≤ 133 := by omega
    exact (BitString.length_encode_ofOctets_le (few.trans_lt (by decide))).trans
      (Nat.add_le_add_right few 7)
  have field : (Der.encode (Der.Tag.constructedField 1)
      (BitString.ofOctets (curve.encodePoint scalar.publicPoint)).encode).length ≤ 146 :=
    (Der.length_encode_le _ (bits.trans (by decide))).trans (Nat.add_le_add_right bits 6)
  have one : (Der.encodeUnsigned version).length = 3 := by decide
  refine (Der.length_encode_le Der.Tag.sequence ?_).trans ?_
  all_goals
    simp only [ofScalar, Option.map_some, Option.getD_some, List.length_append, one, Der.maxLength]
    omega

namespace KeyPair

/-- The label of the file of a key pair. -/
def label : KeyPair → String
  | rsa _ => "RSA PRIVATE KEY"
  | ecdsa _ _ => "EC PRIVATE KEY"

/-- The octets in the file of a key pair. -/
def octets : KeyPair → Octets
  | rsa key => key.encode
  | ecdsa _ scalar => (EllipticCurveKey.ofScalar scalar).encode

/-- The encoding of these octets. -/
def container : KeyPair → KeyContainer
  | rsa _ => .pkcs1
  | ecdsa _ _ => .sec1

theorem file_eq (pair : KeyPair) : pair.file = Pem.encode pair.label pair.octets := by
  cases pair <;> rfl

theorem octets_ne_nil (pair : KeyPair) : pair.octets ≠ [] := by
  cases pair <;> exact Der.encode_ne_nil _ _

theorem isLabel (pair : KeyPair) : Pem.IsLabel pair.label := by
  have dashless : Text.utf8 pair.label ≠ [] ∧ ¬ Pem.dashes <:+: Text.utf8 pair.label ∧
      (Text.utf8 pair.label).getLast? ≠ some 0x2d := by
    cases pair <;> simp only [label] <;> decide
  exact ⟨dashless.1, dashless.2.1, dashless.2.2⟩

theorem find?_octets {pair : KeyPair} (short : pair.octets.length ≤ Der.maxLength) :
    KeyContainer.find? pair.octets = some (pair.container, pair) := by
  cases pair with
  | rsa key => exact KeyContainer.find?_encode_rsa short
  | ecdsa curve scalar => exact KeyContainer.find?_encode_ofScalar short

end KeyPair

/-! ## Loading -/

namespace Key

variable {file : Octets} {container : KeyContainer} {key : Key} {error : Error}
  {environment after : Environment}

/-- The encoding and the key in a file, or what is wrong with the file. -/
def read (file : Octets) : Except Error (KeyContainer × Key) := do
  let octets ← orError .malformedBlock (Pem.find? file)
  let (container, pair) ← orError .malformedPrivateKey (KeyContainer.find? octets)
  return (container, ofPair pair file)

/-- The key in a file is the key pair that its first block is in some encoding. -/
theorem read_eq_ok : read file = .ok (container, key) ↔
    key.file = file ∧ ∃ octets, Pem.find? file = some octets ∧
      container.pair? octets = some key.pair := by
  constructor
  · intro known
    rcases Except.bind_eq_ok.mp known with ⟨octets, block, known⟩
    rcases Except.bind_eq_ok.mp known with ⟨_, found, same⟩
    cases same
    exact ⟨rfl, octets, orError_eq_ok.mp block,
      KeyContainer.find?_eq_some.mp (orError_eq_ok.mp found)⟩
  · rintro ⟨rfl, octets, block, found⟩
    refine Except.bind_eq_ok.mpr ⟨octets, orError_eq_ok.mpr block, Except.bind_eq_ok.mpr
      ⟨_, orError_eq_ok.mpr (KeyContainer.find?_eq_some.mpr found), ?_⟩⟩
    show Except.ok (container, ofPair key.pair key.file) = .ok (container, key)
    rw [← key.eq_ofPair]

/-- There is no key in a file whose first block is a key in no encoding. -/
theorem of_read_eq_error (refused : read file = .error error) :
    error.kind = .encoding ∧ ∀ octets, Pem.find? file = some octets →
      ∀ container : KeyContainer, container.pair? octets = none := by
  constructor
  · unfold read at refused
    cases block : Pem.find? file with
    | none =>
        rw [block] at refused
        cases refused
        rfl
    | some octets =>
        rw [block, orError_some_bind] at refused
        cases found : KeyContainer.find? octets with
        | none =>
            rw [found] at refused
            cases refused
            rfl
        | some result =>
            rw [found] at refused
            cases refused
  · intro octets block container
    cases found : container.pair? octets with
    | none => rfl
    | some pair =>
        have known : read file = .ok (container, ofPair pair file) :=
          read_eq_ok.mpr ⟨rfl, octets, block, found⟩
        rw [known] at refused
        cases refused

/-- Loading a key is reading it and reporting its encoding. -/
theorem load_eq (file : Octets) :
    load file = do
      let found ← Operation.ofExcept (read file)
      Operation.report (.loadedKey found.1)
      return found.2 := by
  rw [load, read]
  cases Pem.find? file with
  | none => rfl
  | some octets =>
      rw [orError_some_bind]
      show Operation.ofOption _ (KeyContainer.find? octets) >>= _ = _
      cases KeyContainer.find? octets <;> rfl

theorem load_eq_ok :
    load file environment = .ok key after ↔
      ∃ container, read file = .ok (container, key) ∧
        environment.reporting [.loadedKey container] = after := by
  rw [load_eq, Operation.ofExcept_bind_eq_ok]
  constructor
  · rintro ⟨⟨container, found⟩, known, done⟩
    rcases Operation.bind_eq_ok.mp done with ⟨_, _, reported, done⟩
    cases reported
    rcases Operation.pure_eq_ok.mp done with ⟨rfl, rfl⟩
    exact ⟨container, known, rfl⟩
  · rintro ⟨container, found, rfl⟩
    exact ⟨_, found, rfl⟩

theorem load_eq_error :
    load file environment = .error error after ↔
      read file = .error error ∧ environment = after := by
  rw [load_eq, Operation.ofExcept_bind_eq_error]
  refine or_iff_left ?_
  rintro ⟨_, _, failed⟩
  cases failed

end Key

/-- The octets of a block are read as the key that they are, whatever its label. -/
theorem Key.load_encode {label : String} {octets : Octets} {container : KeyContainer}
    {pair : KeyPair} (isLabel : Pem.IsLabel label) (written : octets ≠ [])
    (found : KeyContainer.find? octets = some (container, pair)) (environment : Environment) :
    Key.load (Pem.encode label octets) environment = .ok (ofPair pair (Pem.encode label octets))
      { environment with events := environment.events ++ [.loadedKey container] } := by
  have block := Pem.find?_encode isLabel written
  have known : read (Pem.encode label octets) =
      .ok (container, ofPair pair (Pem.encode label octets)) :=
    read_eq_ok.mpr ⟨rfl, octets, block, KeyContainer.find?_eq_some.mp found⟩
  exact load_eq_ok.mpr ⟨container, known, rfl⟩

/-- The file of a key pair is read as the key pair, in any surroundings. -/
theorem Key.load_file {pair : KeyPair} (short : pair.octets.length ≤ Der.maxLength)
    (environment : Environment) : Key.load pair.file environment =
      .ok (ofPair pair pair.file)
        { environment with events := environment.events ++ [.loadedKey pair.container] } := by
  rw [pair.file_eq]
  exact load_encode pair.isLabel pair.octets_ne_nil (KeyPair.find?_octets short) environment

/-! ## Made keys -/

theorem KeyAlgorithm.resolveSize_rsa_le {size : Nat} (accepted : rsa.acceptsSize size = true) :
    minRsaSize ≤ rsa.resolveSize size ∧ rsa.resolveSize size ≤ maxRsaSize := by
  simp only [acceptsSize, Bool.or_eq_true, beq_iff_eq, Bool.and_eq_true, decide_eq_true_eq]
    at accepted
  unfold resolveSize
  split
  · decide
  · rename_i nonzero
    exact accepted.resolve_left nonzero

theorem KeyAlgorithm.acceptsSize_of_validateSize {algorithm : KeyAlgorithm} {size : Nat}
    (checked : algorithm.validateSize size = .ok ()) : algorithm.acceptsSize size = true := by
  unfold validateSize at checked
  split at checked
  · assumption
  · cases checked

theorem KeyAlgorithm.acceptsSize_of_validate {name : String} {size : Nat}
    {algorithm : KeyAlgorithm} (checked : validate name size = .ok algorithm) :
    algorithm.acceptsSize size = true := by
  rcases Except.bind_eq_ok.mp checked with ⟨found, _, checked⟩
  rcases Except.bind_eq_ok.mp checked with ⟨_, accepted, result⟩
  rcases Except.ok.inj result with rfl
  exact acceptsSize_of_validateSize accepted

/-- A key of an algorithm with a number of bits, in a file that holds short octets. -/
structure Key.IsMade (key : Key) (algorithm : KeyAlgorithm) (bits : Nat) : Prop where
  algorithm_eq : key.algorithm = algorithm
  size_eq : key.size = bits
  file_eq : key.file = key.pair.file
  short : key.pair.octets.length ≤ Der.maxLength
  numbers : ∀ rsaKey, key.pair = .rsa rsaKey →
    rsaKey.IsOfSize bits ∧ KeyPair.longestPadding ≤ rsaKey.publicKey.size

/-- A key on a curve fits into its file. -/
theorem Key.isMade_ecdsa {curve : NistCurve} {scalar : NistCurve.Scalar curve} {size : Nat}
    (agrees : (KeyPair.ecdsa curve scalar).Agrees .ecdsa size) :
    IsMade ⟨.ecdsa, size, .ecdsa curve scalar, (KeyPair.ecdsa curve scalar).file, agrees⟩
      .ecdsa size :=
  ⟨rfl, rfl, rfl, (EllipticCurveKey.length_encode_ofScalar_le scalar).trans (by decide), nofun⟩

theorem Key.isMade_rsa {key : Rsa.PrivateKey} {size : Nat} (made : key.IsOfSize size)
    (large : KeyAlgorithm.minRsaSize ≤ size) (small : size ≤ KeyAlgorithm.maxRsaSize)
    (agrees : (KeyPair.rsa key).Agrees .rsa size) :
    IsMade ⟨.rsa, size, .rsa key, (KeyPair.rsa key).file, agrees⟩ .rsa size := by
  have bits := made.bitLength
  have modulus : key.publicKey.modulus < 256 ^ 1024 := by
    apply Rsa.PublicKey.modulus_lt_of_bitLength_le
    rw [bits]
    exact small
  refine ⟨rfl, rfl, rfl, ?_, fun other same => ?_⟩
  · exact key.length_encode_le (by decide) modulus (made.privateExponent_lt.trans modulus)
  · rcases KeyPair.rsa.inj same with rfl
    have octets := key.publicKey.bitLength_le
    unfold KeyAlgorithm.minRsaSize at large
    unfold KeyPair.longestPadding
    exact ⟨made, by omega⟩

theorem Key.isMade_of_generate {algorithm : KeyAlgorithm} {size : Nat}
    {environment after : Environment} {key : Key}
    (made : generate algorithm size environment = .ok key after) :
    key.IsMade algorithm (algorithm.resolveSize size) := by
  rcases Operation.bind_eq_ok.mp made with ⟨_, _, checked, made⟩
  rcases Operation.bind_eq_ok.mp made with ⟨_, _, _, made⟩
  rcases Operation.bind_eq_ok.mp made with ⟨⟨pair, agrees⟩, _, pairMade, made⟩
  rcases Operation.pure_eq_ok.mp made with ⟨rfl, _⟩
  cases algorithm with
  | ecdsa =>
      cases pair with
      | ecdsa curve scalar => exact isMade_ecdsa agrees
      | rsa key => cases agrees.1
  | rsa =>
      rcases Operation.bind_eq_ok.mp pairMade with ⟨⟨key, _⟩, _, keyMade, pairMade⟩
      rcases Operation.pure_eq_ok.mp pairMade with ⟨same, _⟩
      cases same
      have accepted := KeyAlgorithm.acceptsSize_of_validateSize
        (Operation.ofExcept_eq_ok.mp checked).1
      rcases KeyAlgorithm.resolveSize_rsa_le accepted with ⟨large, small⟩
      exact isMade_rsa (Rsa.isOfSize_of_generate keyMade) large small agrees

/-- The key of the first two numbers of a supply is made from the supply. -/
theorem Key.generate_of_isFirst {key : Rsa.PrivateKey} {bits : Nat} {entropy : Entropy}
    (isFirst : key.IsFirstOf bits entropy) (accepted : KeyAlgorithm.rsa.acceptsSize bits = true)
    (events : List Event) : generate .rsa bits ⟨entropy, events⟩ =
      .ok (ofPair (.rsa key) (KeyPair.rsa key).file)
        ⟨Rsa.afterFactors bits entropy, events ++ [.generatingKey .rsa bits]⟩ := by
  have checked : KeyAlgorithm.rsa.validateSize bits = .ok () := if_pos accepted
  have many := isFirst.many
  have resolved : KeyAlgorithm.rsa.resolveSize bits = bits := if_neg (by omega)
  have made := isFirst.generate (events ++ [.generatingKey .rsa bits])
  have pairMade : KeyPair.generate .rsa bits ⟨entropy, events ++ [.generatingKey .rsa bits]⟩ =
      .ok ⟨.rsa key, KeyPair.agrees_rsa isFirst.bitLength⟩
        ⟨Rsa.afterFactors bits entropy, events ++ [.generatingKey .rsa bits]⟩ :=
    Operation.bind_eq_ok.mpr ⟨_, _, made, rfl⟩
  rw [generate, resolved]
  refine Operation.bind_eq_ok.mpr ⟨(), ⟨entropy, events⟩,
    Operation.ofExcept_eq_ok.mpr ⟨checked, rfl⟩, ?_⟩
  refine Operation.bind_eq_ok.mpr ⟨(), ⟨entropy, events ++ [.generatingKey .rsa bits]⟩, rfl, ?_⟩
  refine Operation.bind_eq_ok.mpr ⟨_, _, pairMade, ?_⟩
  exact Operation.pure_eq_ok.mpr ⟨eq_ofPair _, rfl⟩

/-- A made key is read back from its file, in any surroundings. -/
theorem Key.load_of_generate {algorithm : KeyAlgorithm} {size : Nat}
    {environment after : Environment} {key : Key}
    (made : generate algorithm size environment = .ok key after) (surroundings : Environment) :
    load key.file surroundings = .ok key { surroundings with
      events := surroundings.events ++ [.loadedKey key.pair.container] } := by
  have isMade := isMade_of_generate made
  have loaded := load_file isMade.short surroundings
  rw [isMade.file_eq, loaded, ← isMade.file_eq, ← key.eq_ofPair]

end CertAuthority
