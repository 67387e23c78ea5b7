import CertAuthority.Proofs.Key.Consistency

/-!
# The same key in either encoding

A key pair is written in the encoding of its algorithm, or this is wrapped
together with the algorithm.  Under any labels both are loaded as the key pair,
so that nothing depends on the encoding but the report of it.  Keys on a curve
are always short enough for that; an RSA key is if its wrapped encoding is not
longer than any that is read.
-/

namespace CertAuthority

namespace KeyPair

/-- The octets of a key pair together with its algorithm. -/
def wrapped (pair : KeyPair) : WrappedKey :=
  ⟨pair.publicKeyInfo.algorithm, pair.octets⟩

/-- Whether the encodings of a key pair can be written. -/
def IsWritable : KeyPair → Prop
  | rsa key => (rsa key).wrapped.encode.length ≤ Der.maxLength
  | ecdsa _ _ => True

/-- What is wrapped is shorter than the wrapping. -/
theorem length_octets_le (pair : KeyPair) :
    pair.octets.length ≤ pair.wrapped.encode.length := by
  have inner := Der.length_content_le Der.Tag.octetString pair.octets
  have outer := Der.length_content_le Der.Tag.sequence
    (Der.encodeUnsigned 0 ++ pair.wrapped.algorithm.encode ++ Der.encodeOctetString pair.octets)
  rw [List.length_append] at outer
  exact inner.trans ((Nat.le_add_left _ _).trans outer)

theorem length_wrapped_le {pair : KeyPair} (writable : pair.IsWritable) :
    pair.wrapped.encode.length ≤ Der.maxLength := by
  cases pair with
  | rsa key => exact writable
  | ecdsa curve scalar =>
      have octets := EllipticCurveKey.length_encode_ofScalar_le scalar
      have key : (Der.encodeOctetString (EllipticCurveKey.ofScalar scalar).encode).length ≤ 262 :=
        (Der.length_encode_le _ (octets.trans (by decide))).trans (Nat.add_le_add_right octets 6)
      have algorithm : curve.keyIdentifier.encode.length ≤ 32 := by cases curve <;> decide
      have zero : (Der.encodeUnsigned 0).length = 3 := by decide
      have content : (Der.encodeUnsigned 0 ++ curve.keyIdentifier.encode ++
          Der.encodeOctetString (EllipticCurveKey.ofScalar scalar).encode).length ≤ 297 := by
        simp only [List.length_append, zero]
        omega
      exact (Der.length_encode_le _ (content.trans (by decide))).trans
        ((Nat.add_le_add_right content 6).trans (by decide))

theorem find?_wrapped {pair : KeyPair} (writable : pair.IsWritable) :
    KeyContainer.find? pair.wrapped.encode = some (.pkcs8, pair) := by
  have outer := length_wrapped_le writable
  have inner := (length_octets_le pair).trans outer
  have readable : pair.wrapped.algorithm.IsReadable := pair.isReadable_publicKeyInfo
  rw [KeyContainer.find?_eq_some, KeyContainer.pair?, WrappedKey.decode?_encode readable outer]
  cases pair with
  | rsa key => exact WrappedKey.pair?_rsa inner
  | ecdsa curve scalar => exact WrappedKey.pair?_ofScalar inner

end KeyPair

/-- A key pair is loaded from the encoding of its algorithm and from the wrapped one, each under
any label, and all that is told of a key is the same; the size is the one of the key pair.  So a
made key is loaded from its file as the same key. -/
theorem Key.load_either_encoding {pair : KeyPair} (writable : pair.IsWritable)
    {label otherLabel : String} (isLabel : Pem.IsLabel label)
    (otherIsLabel : Pem.IsLabel otherLabel) (environment : Environment) :
    (∃ key wrapped,
      load (Pem.encode label pair.octets) environment = .ok key
          { environment with events := environment.events ++ [.loadedKey pair.container] } ∧
        load (Pem.encode otherLabel pair.wrapped.encode) environment = .ok wrapped
          { environment with events := environment.events ++ [.loadedKey .pkcs8] } ∧
        key.pair = pair ∧ wrapped.pair = pair ∧
          wrapped.pair.kindName = key.pair.kindName ∧
            wrapped.publicKeyInfo = key.publicKeyInfo ∧
              wrapped.algorithm = key.algorithm ∧ wrapped.size = key.size ∧
                wrapped.signatureAlgorithm = key.signatureAlgorithm ∧
                  pair.Agrees key.algorithm key.size) ∧
      ∀ algorithm size start after made, generate algorithm size start = .ok made after →
        load made.file environment = .ok made
          { environment with events := environment.events ++ [.loadedKey made.pair.container] } := by
  have short := (KeyPair.length_octets_le pair).trans (KeyPair.length_wrapped_le writable)
  have first := load_encode isLabel pair.octets_ne_nil (KeyPair.find?_octets short) environment
  have second := load_encode otherIsLabel (Der.encode_ne_nil _ _) (KeyPair.find?_wrapped writable)
    environment
  refine ⟨⟨_, _, first, second, rfl, rfl, rfl, rfl, rfl, rfl, rfl, pair.agrees⟩, ?_⟩
  intro algorithm size start after made generated
  exact load_of_generate generated environment

/-- The key of the least scalar of the smallest curve, whose encodings are tried last. -/
def leastKey : KeyPair := .ecdsa .p224 ⟨1, by decide⟩

/-- The least key is loaded from either encoding, under labels that are not usual. -/
theorem leastKey_is_loaded : ∃ key wrapped,
    Key.load (Pem.encode "A-B" leastKey.octets) ⟨⟨fun _ => 0, 0⟩, []⟩ =
        .ok key ⟨⟨fun _ => 0, 0⟩, [.loadedKey .sec1]⟩ ∧
      Key.load (Pem.encode "KEY" leastKey.wrapped.encode) ⟨⟨fun _ => 0, 0⟩, []⟩ =
          .ok wrapped ⟨⟨fun _ => 0, 0⟩, [.loadedKey .pkcs8]⟩ ∧
        key.pair = leastKey ∧ wrapped.pair = leastKey ∧ wrapped.size = 256 := by
  have writable : leastKey.IsWritable := trivial
  have unusual : Pem.IsLabel "A-B" := ⟨by decide, by decide, by decide⟩
  have short : Pem.IsLabel "KEY" := ⟨by decide, by decide, by decide⟩
  obtain ⟨⟨key, wrapped, first, second, pair, same, _⟩, _⟩ :=
    Key.load_either_encoding writable unusual short ⟨⟨fun _ => 0, 0⟩, []⟩
  refine ⟨key, wrapped, first, second, pair, same, ?_⟩
  rw [wrapped.size_eq, same]
  rfl

end CertAuthority
