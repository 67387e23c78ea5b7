import CertAuthority.Proofs.Key.EllipticCurve
import CertAuthority.Proofs.Rsa.Key
import CertAuthority.Proofs.X509.Certificate

/-!
# Private keys read back

The encodings of private keys are tried one after another, but the order does
not matter: no octets are keys in two encodings, because the element after the
version is of another type in each.  So a key is read back if the encoding it
is written in gives the key.
-/

namespace CertAuthority

open Der (BitString Fills Reads)

/-! ## The key of one algorithm -/

namespace EllipticCurveKey

theorem reads_whole (octets : Octets) :
    Reads decodeWhole (BitString.ofOctets octets).encode octets :=
  (BitString.ofOctets octets).reads.map fun rest => by simp

/-- A key is read back if its curve is not named. -/
theorem reads (scalar : Octets) (publicPoint : Option Octets) :
    Reads (Der.decodeNested Der.Tag.sequence decodeContent)
      (encode ⟨scalar, none, publicPoint⟩) ⟨scalar, none, publicPoint⟩ := by
  apply Fills.nested
  simp only [List.append_assoc]
  apply (Der.reads_unsigned version).bind
  simp only [ne_eq, not_true_eq_false, if_false]
  apply (Der.reads_octetString scalar).bind
  cases publicPoint with
  | none => exact fun _ => rfl
  | some point =>
      have beyond : Der.IsBeyond 0 (Der.encode (Der.Tag.constructedField 1)
          (BitString.ofOctets point).encode ++ []) := by
        apply Der.isBeyond_encode
        intro found numbered
        rw [Der.contextNumber?_constructedField (by decide)] at numbered
        rw [← Option.some.inj numbered]
        exact Nat.one_pos
      rw [List.append_nil] at beyond
      apply Fills.skip beyond
      exact (Reads.wrapped (by decide) (reads_whole point)).last rfl

theorem decode?_ofScalar {curve : NistCurve} (scalar : NistCurve.Scalar curve)
    (bound : (ofScalar scalar).encode.length ≤ Der.maxLength) :
    decode? (ofScalar scalar).encode = some (ofScalar scalar) :=
  (reads _ _).complete bound

end EllipticCurveKey

/-! ## Wrapped keys -/

/-- The identifiers of public keys are read. -/
theorem KeyPair.isReadable_publicKeyInfo (pair : KeyPair) : pair.publicKeyInfo.IsReadable := by
  cases pair with
  | rsa key =>
      show rsaKeyIdentifier.IsReadable
      decide
  | ecdsa curve scalar =>
      show curve.keyIdentifier.IsReadable
      cases curve <;> decide

theorem NistCurve.parametersOid?_keyIdentifier (curve : NistCurve) :
    curve.keyIdentifier.parametersOid? = some curve.oid := by
  cases curve <;> decide

namespace WrappedKey

/-- The wrapped key as octets, in the first version. -/
def encode (wrapped : WrappedKey) : Octets :=
  Der.encode Der.Tag.sequence
    (Der.encodeUnsigned 0 ++ wrapped.algorithm.encode ++ Der.encodeOctetString wrapped.key)

theorem reads {wrapped : WrappedKey} (readable : wrapped.algorithm.IsReadable) :
    Reads (Der.decodeNested Der.Tag.sequence decodeContent) wrapped.encode wrapped := by
  apply Fills.nested
  simp only [List.append_assoc]
  apply (Der.reads_unsigned 0).bind
  apply (wrapped.algorithm.readsIf.reads readable).bind
  exact (Der.reads_octetString wrapped.key).last rfl

theorem decode?_encode {wrapped : WrappedKey} (readable : wrapped.algorithm.IsReadable)
    (bound : wrapped.encode.length ≤ Der.maxLength) : decode? wrapped.encode = some wrapped :=
  (reads readable).complete bound

theorem pair?_rsa {key : Rsa.PrivateKey} (bound : key.encode.length ≤ Der.maxLength) :
    pair? ⟨rsaKeyIdentifier, key.encode⟩ = some (.rsa key) := by
  simp [pair?, rsaPair?, key.decode?_encode bound]

theorem pair?_ofScalar {curve : NistCurve} {scalar : NistCurve.Scalar curve}
    (bound : (EllipticCurveKey.ofScalar scalar).encode.length ≤ Der.maxLength) :
    pair? ⟨curve.keyIdentifier, (EllipticCurveKey.ofScalar scalar).encode⟩ =
      some (.ecdsa curve scalar) := by
  have notRsa : curve.keyIdentifier ≠ rsaKeyIdentifier := by cases curve <;> decide
  have own := EllipticCurveKey.pairOn?_ofScalar scalar
  have named : ∀ other, ellipticCurvePair?
      ⟨curve.keyIdentifier, (EllipticCurveKey.ofScalar scalar).encode⟩ other =
        if curve.oid = other.oid then (EllipticCurveKey.ofScalar scalar).pairOn? other
        else none := by
    intro other
    have identifier : curve.keyIdentifier.oid = ellipticCurveOid := rfl
    simp [ellipticCurvePair?, identifier, NistCurve.parametersOid?_keyIdentifier,
      EllipticCurveKey.decode?_ofScalar scalar bound]
  have distinct : ∀ other : NistCurve, curve.oid = other.oid ↔ curve = other := by
    intro other
    cases curve <;> cases other <;> decide
  simp only [pair?, rsaPair?, if_neg notRsa, NistCurve.all, List.findSome?_cons,
    List.findSome?_nil, named, distinct]
  cases curve <;> simp [own]

end WrappedKey

/-! ## The encoding of a key -/

/-- The first octet after the version of a key, which is the type of the element there. -/
def markOf? (octets : Octets) : Option UInt8 := do
  let content ← Der.complete (Der.decodeTagged Der.Tag.sequence) octets
  let (_, rest) ← Der.decodeUnsigned content
  rest.head?

theorem markOf?_eq_some {octets content rest : Octets} {version : Nat} {mark : UInt8}
    (whole : Der.complete (Der.decodeTagged Der.Tag.sequence) octets = some content)
    (first : Der.decodeUnsigned content = some (version, rest)) (next : rest.head? = some mark) :
    markOf? octets = some mark := by
  simp [markOf?, whole, first, next]

namespace KeyContainer

/-- The type of the element after the version. -/
def mark : KeyContainer → Der.Tag
  | pkcs8 => Der.Tag.sequence
  | pkcs1 => Der.Tag.integer
  | sec1 => Der.Tag.octetString

theorem mark_injective {container other : KeyContainer}
    (same : container.mark.octet = other.mark.octet) : container = other := by
  cases container <;> cases other <;> first | rfl | exact absurd same (by decide)

theorem markOf?_of_pair? {container : KeyContainer} {octets : Octets} {pair : KeyPair}
    (read : container.pair? octets = some pair) :
    markOf? octets = some container.mark.octet := by
  cases container with
  | pkcs8 =>
      rcases Option.bind_eq_some_iff.mp read with ⟨wrapped, whole, _⟩
      rcases Der.exists_content_of_complete whole with ⟨content, element, fields⟩
      rcases Option.bind_eq_some_iff.mp fields with ⟨⟨version, rest⟩, first, fields⟩
      dsimp only at fields
      split at fields
      · cases fields
      · rcases Option.bind_eq_some_iff.mp fields with ⟨⟨algorithm, after⟩, algorithmRead, _⟩
        rcases Option.bind_eq_some_iff.mp algorithmRead with ⟨⟨parts, _⟩, tagged, _⟩
        exact markOf?_eq_some element first (Der.head?_of_decodeTagged tagged)
  | pkcs1 =>
      rcases Option.map_eq_some_iff.mp read with ⟨key, keyRead, _⟩
      rcases Option.bind_eq_some_iff.mp keyRead with ⟨numbers, whole, fields⟩
      rcases Option.bind_eq_some_iff.mp (Der.complete_eq_some.mp whole) with
        ⟨⟨content, _⟩, element, listed⟩
      rcases Option.bind_eq_some_iff.mp listed with ⟨found, all, listed⟩
      cases listed
      split at fields
      · rcases Der.decodeRepeated_eq_cons all with ⟨rest, _, first, all⟩
        rcases Der.decodeRepeated_eq_cons all with ⟨_, _, second, _⟩
        rcases Option.bind_eq_some_iff.mp second with ⟨⟨number, _⟩, tagged, _⟩
        exact markOf?_eq_some (Der.complete_eq_some.mpr element) first
          (Der.head?_of_decodeTagged tagged)
      · cases fields
  | sec1 =>
      rcases Option.bind_eq_some_iff.mp read with ⟨key, whole, _⟩
      rcases Der.exists_content_of_complete whole with ⟨content, element, fields⟩
      rcases Option.bind_eq_some_iff.mp fields with ⟨⟨version, rest⟩, first, fields⟩
      dsimp only at fields
      split at fields
      · cases fields
      · rcases Option.bind_eq_some_iff.mp fields with ⟨⟨scalar, after⟩, tagged, _⟩
        exact markOf?_eq_some element first (Der.head?_of_decodeTagged tagged)

/-- No octets are key pairs in two encodings. -/
theorem eq_of_pair? {container other : KeyContainer} {octets : Octets} {pair otherPair : KeyPair}
    (read : container.pair? octets = some pair) (otherRead : other.pair? octets = some otherPair) :
    other = container := by
  have first := markOf?_of_pair? read
  rw [markOf?_of_pair? otherRead] at first
  exact mark_injective (Option.some.inj first)

/-- The order in which the encodings are tried does not matter. -/
theorem find?_eq_some {container : KeyContainer} {octets : Octets} {pair : KeyPair} :
    find? octets = some (container, pair) ↔ container.pair? octets = some pair := by
  constructor
  · intro found
    rcases List.exists_of_findSome?_eq_some found with ⟨other, _, read⟩
    rcases Option.map_eq_some_iff.mp read with ⟨otherPair, otherRead, same⟩
    cases same
    exact otherRead
  · intro read
    have listed : container ∈ all := by cases container <;> decide
    cases found : find? octets with
    | none =>
        have refused := List.findSome?_eq_none_iff.mp found container listed
        rw [read] at refused
        cases refused
    | some result =>
        rcases result with ⟨other, otherPair⟩
        rcases List.exists_of_findSome?_eq_some found with ⟨tried, _, triedRead⟩
        rcases Option.map_eq_some_iff.mp triedRead with ⟨_, otherRead, same⟩
        cases same
        obtain rfl := eq_of_pair? read otherRead
        rw [Option.some.inj (otherRead.symm.trans read)]

theorem find?_encode_rsa {key : Rsa.PrivateKey} (bound : key.encode.length ≤ Der.maxLength) :
    find? key.encode = some (.pkcs1, .rsa key) := by
  rw [find?_eq_some, pair?, key.decode?_encode bound, Option.map_some]

theorem find?_encode_ofScalar {curve : NistCurve} {scalar : NistCurve.Scalar curve}
    (bound : (EllipticCurveKey.ofScalar scalar).encode.length ≤ Der.maxLength) :
    find? (EllipticCurveKey.ofScalar scalar).encode = some (.sec1, .ecdsa curve scalar) := by
  rw [find?_eq_some, pair?, EllipticCurveKey.decode?_ofScalar scalar bound]
  exact EllipticCurveKey.findSome?_pairOn?_ofScalar scalar

end KeyContainer

end CertAuthority
