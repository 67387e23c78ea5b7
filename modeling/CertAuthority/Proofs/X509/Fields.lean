import CertAuthority.Proofs.Der.Exact
import CertAuthority.Proofs.X509.Time
import CertAuthority.X509.Certificate

/-!
# Reading the fields of certificates back

Names, public keys and algorithms hold object identifiers, and every object
identifier can be written; but one of two octets is not read again.  So each of
these fields is read back exactly if its identifiers are long enough, and what
has been read has identifiers that are.  A serial number is read back exactly if
its octets are the shortest form of a number that is not too long.
-/

namespace CertAuthority.X509

open Der (Any BitString Decoder FillsIf Oid Reads ReadsIf)

/-! ## Algorithms and public keys -/

namespace AlgorithmIdentifier

/-- Whether the object identifier is one that is read. -/
def IsReadable (identifier : AlgorithmIdentifier) : Prop :=
  identifier.oid.isReadable = true

instance (identifier : AlgorithmIdentifier) : Decidable identifier.IsReadable :=
  inferInstanceAs (Decidable (_ = true))

theorem fillsIf (identifier : AlgorithmIdentifier) :
    FillsIf identifier.IsReadable decodeContent
      (identifier.oid.encode ++ (identifier.parameters.map Any.encode).getD []) identifier := by
  rcases identifier with ⟨oid, parameters⟩
  cases parameters with
  | none =>
      rw [Option.map_none, Option.getD_none, List.append_nil]
      exact (Der.readsIf_oid oid).last rfl
  | some any =>
      apply (Der.readsIf_oid oid).bindFills
      intro bound
      have parameters := Der.reads_any any bound []
      have written : any.encode.isEmpty = false := rfl
      rw [List.append_nil] at parameters
      simp [written, parameters]

theorem readsIf (identifier : AlgorithmIdentifier) :
    ReadsIf identifier.IsReadable decode identifier.encode identifier :=
  identifier.fillsIf.nested

theorem isReadable_of_decode {octets rest : Octets} {identifier : AlgorithmIdentifier}
    (read : decode octets = some (identifier, rest)) : identifier.IsReadable := by
  rcases Der.decodeNested_eq_some read with ⟨content, _, _, read⟩
  rcases Option.bind_eq_some_iff.mp read with ⟨⟨oid, after⟩, oidRead, read⟩
  have readable := Oid.isReadable_of_decode oidRead
  dsimp only at read
  split at read
  · cases read
    exact readable
  · rcases Option.bind_eq_some_iff.mp read with ⟨⟨parameters, last⟩, _, read⟩
    cases read
    exact readable

end AlgorithmIdentifier

namespace PublicKeyInfo

/-- Whether the identifier of the algorithm is one that is read. -/
def IsReadable (info : PublicKeyInfo) : Prop :=
  info.algorithm.IsReadable

instance (info : PublicKeyInfo) : Decidable info.IsReadable :=
  inferInstanceAs (Decidable info.algorithm.IsReadable)

theorem readsIf (info : PublicKeyInfo) : ReadsIf info.IsReadable decode info.encode info :=
  FillsIf.nested (info.algorithm.readsIf.bindFills (info.key.reads.last rfl))

theorem isReadable_of_decode {octets rest : Octets} {info : PublicKeyInfo}
    (read : decode octets = some (info, rest)) : info.IsReadable := by
  rcases Der.decodeNested_eq_some read with ⟨content, _, _, read⟩
  rcases Option.bind_eq_some_iff.mp read with ⟨⟨algorithm, after⟩, algorithmRead, read⟩
  rcases Option.bind_eq_some_iff.mp read with ⟨⟨key, last⟩, _, read⟩
  cases read
  exact AlgorithmIdentifier.isReadable_of_decode algorithmRead

end PublicKeyInfo

/-! ## Names -/

namespace NameAttribute

/-- Whether the object identifier is one that is read. -/
def IsReadable (item : NameAttribute) : Prop :=
  item.oid.isReadable = true

instance (item : NameAttribute) : Decidable item.IsReadable :=
  inferInstanceAs (Decidable (_ = true))

theorem readsIf (item : NameAttribute) : ReadsIf item.IsReadable decode item.encode item :=
  FillsIf.nested ((Der.readsIf_oid item.oid).bindFills ((Der.reads_any item.value).last rfl))

theorem isReadable_of_decode {octets rest : Octets} {item : NameAttribute}
    (read : decode octets = some (item, rest)) : item.IsReadable := by
  rcases Der.decodeNested_eq_some read with ⟨content, _, _, read⟩
  rcases Option.bind_eq_some_iff.mp read with ⟨⟨oid, after⟩, oidRead, read⟩
  rcases Option.bind_eq_some_iff.mp read with ⟨⟨value, last⟩, _, read⟩
  cases read
  exact Oid.isReadable_of_decode oidRead

end NameAttribute

namespace RelativeName

/-- Whether every attribute is one that is read. -/
def IsReadable (name : RelativeName) : Prop :=
  ∀ item ∈ name.members, item.IsReadable

instance (name : RelativeName) : Decidable name.IsReadable :=
  inferInstanceAs (Decidable (∀ item ∈ name.members, item.IsReadable))

theorem readsIf_members (name : RelativeName) :
    ReadsIf name.IsReadable (Der.decodeList Der.Tag.set NameAttribute.decode) name.encode
      name.members :=
  Der.readsIf_list (fun item _ => item.readsIf) (fun _ _ => Der.encode_ne_nil _ _)

theorem readsIf (name : RelativeName) : ReadsIf name.IsReadable decode name.encode name := by
  apply (readsIf_members name).map
  intro rest
  simp [Der.SetOf.ofMembers?_members]

theorem isReadable_of_decode {octets rest : Octets} {name : RelativeName}
    (read : decode octets = some (name, rest)) : name.IsReadable := by
  rcases Option.bind_eq_some_iff.mp read with ⟨⟨attributes, after⟩, listRead, read⟩
  rcases Option.bind_eq_some_iff.mp read with ⟨found, made, read⟩
  cases read
  intro item inside
  exact Der.forall_of_decodeList (fun _ _ _ => NameAttribute.isReadable_of_decode) listRead item
    (Der.SetOf.mem_of_ofMembers? made inside)

end RelativeName

namespace Name

/-- Whether every attribute is one that is read. -/
def IsReadable (name : Name) : Prop :=
  ∀ part ∈ name, RelativeName.IsReadable part

instance (name : Name) : Decidable name.IsReadable :=
  inferInstanceAs (Decidable (∀ part ∈ name, RelativeName.IsReadable part))

theorem readsIf (name : Name) : ReadsIf name.IsReadable decode name.encode name :=
  Der.readsIf_list (fun part _ => RelativeName.readsIf part) (fun _ _ => Der.encode_ne_nil _ _)

end Name

/-! ## Versions and serial numbers -/

theorem Version.reads (version : Version) :
    Reads decode (Der.encodeUnsigned version.number) version := by
  apply (Der.reads_unsigned version.number).map
  intro rest
  cases version <;> rfl

namespace SerialNumber

/-- Whether the octets are the shortest form of a number that is not too long. -/
def IsReadable (serial : SerialNumber) : Prop :=
  Der.isSignedContent serial.content = true ∧ serial.content.length ≤ maxSize

instance (serial : SerialNumber) : Decidable serial.IsReadable :=
  inferInstanceAs (Decidable (_ ∧ _))

theorem readsIf (serial : SerialNumber) :
    ReadsIf serial.IsReadable decode serial.encode serial := by
  intro bound rest result
  have content := Der.reads_tagged Der.Tag.integer serial.content bound rest
  have made : ofContent? serial.content = if serial.IsReadable then some serial else none := rfl
  simp only [decode, decodeAs, encode, content, made, Option.bind_eq_bind, Option.bind_some]
  by_cases readable : serial.IsReadable <;> simp [readable, eq_comm]

@[simp]
theorem value_ofNat (value : Nat) : (ofNat value).value = value :=
  Der.signedValue_unsignedContent value

theorem isReadable_ofNat {value : Nat} (small : value < 256 ^ 20) : (ofNat value).IsReadable := by
  refine ⟨Der.isSignedContent_unsignedContent value, ?_⟩
  exact Nat.le_trans (Der.length_unsignedContent_le value)
    (Nat.succ_le_succ (Octets.byteLength_le small))

end SerialNumber

/-! ## Extensions -/

namespace Extension

/-- Reads an extension with a decoder of its identifier and one of its criticality. -/
def decodeParts (identifier : Decoder Oid) (critical : Decoder (Option Bool)) :
    Decoder Extension :=
  Der.decodeNested Der.Tag.sequence fun octets => do
    let (oid, rest) ← identifier octets
    let (critical, rest) ← critical rest
    let (value, rest) ← Der.decodeOctetString rest
    return (⟨oid, critical.getD false, value⟩, rest)

theorem readsIf_parts {condition : Prop} {identifier : Decoder Oid}
    {critical : Decoder (Option Bool)} {extension : Extension}
    (readable : ReadsIf condition identifier extension.oid.encode extension.oid)
    (absent : ∀ octets : Octets, octets.head? ≠ some Der.Tag.boolean.octet →
      critical octets = some (none, octets))
    (present : Reads critical (Der.encodeBoolean true) (some true)) :
    ReadsIf condition (decodeParts identifier critical) extension.encode extension := by
  rcases extension with ⟨oid, isCritical, value⟩
  refine FillsIf.nested (readable.bindFills ?_)
  cases isCritical with
  | false =>
      have other : (Der.encodeOctetString value).head? ≠ some Der.Tag.boolean.octet := by
        show some Der.Tag.octetString.octet ≠ some Der.Tag.boolean.octet
        decide
      rw [if_neg Bool.false_ne_true, List.nil_append]
      exact Der.Fills.absent (absent _ other) ((Der.reads_octetString value).last rfl)
  | true =>
      rw [if_pos rfl]
      apply present.bind
      exact (Der.reads_octetString value).last rfl

end Extension

end CertAuthority.X509
