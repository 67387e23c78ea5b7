import CertAuthority.Extension.BasicConstraints
import CertAuthority.Extension.ExtendedKeyUsage
import CertAuthority.Extension.KeyIdentifier
import CertAuthority.Extension.KeyUsage
import CertAuthority.Proofs.X509.Certificate

/-!
# Reading the values of extensions back

Each type of extension is read back from the octets that carry it.  Sets of
uses are written without the flags behind the last one that is set; reading
takes missing flags for ones that are not.
-/

namespace CertAuthority

open Der (Reads Fills)

/-- That a value, once written, is read as another value of its type. -/
def ExtensionValue.ReadsBack {α : Type} [ExtensionValue α] (value read : α) : Prop :=
  ∀ octets, ExtensionValue.encode value = .ok octets → octets.length ≤ Der.maxLength →
    ExtensionValue.decode octets = .ok read

open ExtensionValue (ReadsBack)

/-! ## Key usage -/

namespace KeyUsage

/-- A property of all sets of uses, checked one by one. -/
theorem forall_keyUsage {property : KeyUsage → Prop}
    (every : ∀ number < 512, property ⟨BitVec.ofNat 9 number⟩) (usage : KeyUsage) :
    property usage := by
  have found := every usage.flags.toNat usage.flags.isLt
  rwa [BitVec.ofNat_toNat, BitVec.setWidth_eq] at found

/-- The flags that are written are those of the set. -/
theorem ofList_bits : ∀ usage : KeyUsage,
    ofList (KeyUse.all.filter fun use => usage.bits.getD use.position false) = usage :=
  forall_keyUsage (by decide +kernel)

theorem length_bits_le (usage : KeyUsage) : usage.bits.length ≤ 9 := by
  rw [bits, List.length_reverse]
  apply Nat.le_trans (List.dropWhile_sublist _).length_le
  simp [KeyUse.all]

theorem decode?_encode {usage : KeyUsage} (bound : usage.encode.length ≤ Der.maxLength) :
    decode? usage.encode = some usage := by
  have read := (Der.BitString.ofBits usage.bits).reads.complete bound
  have short : usage.bits.length ≤ maxBits := Nat.le_trans usage.length_bits_le (by decide)
  rw [decode?, encode, read]
  simp only [Option.bind_eq_bind, Option.bind_some, Der.BitString.bits_ofBits]
  rw [if_pos short, usage.ofList_bits]

theorem readsBack (usage : KeyUsage) : ReadsBack usage usage := by
  intro octets written bound
  obtain rfl : usage.encode = octets := Except.ok.inj written
  exact congrArg (orError .malformedExtension) (decode?_encode bound)

end KeyUsage

/-! ## Extended key usage -/

namespace Purpose

theorem oid_readable (purpose : Purpose) : purpose.oid.isReadable = true := by
  cases purpose <;> rfl

theorem ofOid_oid (purpose : Purpose) : ofOid purpose.oid = .ok purpose := by
  cases purpose <;> rfl

theorem mapM_ofOid (purposes : List Purpose) :
    (purposes.map oid).mapM ofOid = .ok purposes := by
  induction purposes with
  | nil => rfl
  | cons head tail ih =>
      rw [List.map_cons, List.mapM_cons, ofOid_oid, ih]
      rfl

end Purpose

namespace ExtendedKeyUsage

theorem reads_identifiers (usage : ExtendedKeyUsage) :
    Reads (Der.decodeList Der.Tag.sequence Der.Oid.decode) usage.encode
      (usage.purposes.map Purpose.oid) := by
  have written : usage.encode =
      Der.encode Der.Tag.sequence ((usage.purposes.map Purpose.oid).flatMap Der.Oid.encode) := by
    rw [encode, List.flatMap_map]
  rw [written]
  refine Der.reads_list (fun oid member => ?_) (fun _ _ => Der.encode_ne_nil _ _)
  rcases List.mem_map.mp member with ⟨purpose, _, rfl⟩
  exact Der.reads_oid purpose.oid_readable

theorem readsBack (usage : ExtendedKeyUsage) : ReadsBack usage usage := by
  intro octets written bound
  obtain rfl : usage.encode = octets := Except.ok.inj written
  have identifiers : identifiers? usage.encode = some (usage.purposes.map Purpose.oid) :=
    usage.reads_identifiers.complete bound
  show decode usage.encode = .ok usage
  simp only [decode, identifiers, orError, bind, Except.bind, Purpose.mapM_ofOid]
  rfl

end ExtendedKeyUsage

/-! ## Basic constraints -/

namespace BasicConstraints

theorem reads_length (length : UInt8) :
    Reads decodeLength (Der.encodeUnsigned length.toNat) length := by
  apply (Der.reads_unsigned length.toNat).map
  intro rest
  simp [length.toNat_lt]

theorem fills_maxPathLength (isCa : Bool) (maxPathLength : Option UInt8) :
    Fills (fun octets => do
      let (maxPathLength, rest) ← Der.decodeOptional Der.Tag.integer decodeLength octets
      return ((⟨isCa, maxPathLength⟩ : BasicConstraints), rest))
      ((maxPathLength.map fun length => Der.encodeUnsigned length.toNat).getD [])
      ⟨isCa, maxPathLength⟩ := by
  cases maxPathLength with
  | none => exact fun _ => rfl
  | some length => exact (Reads.optional (reads_length length)).last rfl

theorem fills (constraints : BasicConstraints) :
    Fills decodeContent
      ((if constraints.isCa then Der.encodeBoolean true else []) ++
        (constraints.maxPathLength.map fun length => Der.encodeUnsigned length.toNat).getD [])
      constraints := by
  rcases constraints with ⟨isCa, maxPathLength⟩
  cases isCa with
  | true =>
      exact (Reads.optional (Der.reads_boolean true)).bind (fills_maxPathLength true maxPathLength)
  | false =>
      refine Fills.skipOptional ?_ (fills_maxPathLength false maxPathLength)
      cases maxPathLength with
      | none => exact (Option.some_ne_none _).symm
      | some length =>
          show some Der.Tag.integer.octet ≠ some Der.Tag.boolean.octet
          decide

theorem readsBack (constraints : BasicConstraints) : ReadsBack constraints constraints := by
  intro octets written bound
  obtain rfl : constraints.encode = octets := Except.ok.inj written
  have read : decode? constraints.encode = some constraints :=
    constraints.fills.nested.complete bound
  exact congrArg (orError .malformedExtension) read

end BasicConstraints

/-! ## Key identifiers -/

theorem SubjectKeyIdentifier.readsBack (key : SubjectKeyIdentifier) : ReadsBack key key := by
  intro octets written bound
  obtain rfl : key.encode = octets := Except.ok.inj written
  have read : decode? key.encode = some key := by
    rw [decode?, encode, (Der.reads_octetString key.identifier).complete bound]
    rfl
  exact congrArg (orError .malformedExtension) read

theorem AuthorityKeyIdentifier.readsBack (key : AuthorityKeyIdentifier) : ReadsBack key key := by
  intro octets written bound
  obtain rfl : key.encode = octets := Except.ok.inj written
  have identifier : Reads (Der.decodeField 0 (Der.decodeTagged (Der.Tag.field 0)))
      (Der.encode (Der.Tag.field 0) key.identifier) (some key.identifier) :=
    Reads.field (Der.contextNumber?_field (by decide)) (Der.reads_tagged _ _)
  have content : Fills decodeContent (Der.encode (Der.Tag.field 0) key.identifier) key :=
    identifier.last rfl
  have read : decode? key.encode = some key := content.nested.complete bound
  exact congrArg (orError .malformedExtension) read

end CertAuthority
