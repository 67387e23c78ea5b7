import CertAuthority.Extension.Basic
import CertAuthority.Proofs.Der.Exact
import CertAuthority.Proofs.X509.Certificate

/-!
# Certificates that are written again as they were

Reading a certificate does not keep everything of its octets: a first version
and an extension that is not critical may have been written, attributes of a
set may have stood in any order, and fields out of place are passed over.  A
stricter reader refuses all four (`Reader.distinguished`), and it reads only
what is written for a certificate.  So writing a certificate again gives the
octets it was read from exactly if the stricter reader takes them.

Only the signed part can differ: the algorithm and the signature behind it have
one form (`Certificate.eq_of_complete_decode`).
-/

namespace CertAuthority.X509

open Der (Any BitString Decoder Exact Fills Oid Reads)

/-! ## Fields -/

namespace AlgorithmIdentifier

theorem exact : Exact decode encode := by
  refine Exact.nested fun octets identifier rest read => ?_
  rcases Option.bind_eq_some_iff.mp read with ⟨⟨oid, after⟩, oidRead, read⟩
  rw [Der.exact_oid _ _ _ oidRead]
  dsimp only at read
  split at read
  · rename_i nothing
    cases read
    rw [List.isEmpty_iff.mp nothing, Option.map_none, Option.getD_none, List.append_nil,
      List.append_nil]
  · rcases Option.bind_eq_some_iff.mp read with ⟨⟨parameters, last⟩, parametersRead, read⟩
    cases read
    rw [Der.exact_any _ _ _ parametersRead, Option.map_some, Option.getD_some, List.append_assoc]

end AlgorithmIdentifier

theorem PublicKeyInfo.exact : Exact decode encode := by
  refine Exact.nested fun octets info rest read => ?_
  rcases Option.bind_eq_some_iff.mp read with ⟨⟨algorithm, after⟩, algorithmRead, read⟩
  rcases Option.bind_eq_some_iff.mp read with ⟨⟨key, last⟩, keyRead, read⟩
  cases read
  rw [AlgorithmIdentifier.exact _ _ _ algorithmRead, BitString.exact _ _ _ keyRead,
    List.append_assoc]

theorem NameAttribute.exact : Exact decode encode := by
  refine Exact.nested fun octets item rest read => ?_
  rcases Option.bind_eq_some_iff.mp read with ⟨⟨oid, after⟩, oidRead, read⟩
  rcases Option.bind_eq_some_iff.mp read with ⟨⟨value, last⟩, valueRead, read⟩
  cases read
  rw [Der.exact_oid _ _ _ oidRead, Der.exact_any _ _ _ valueRead, List.append_assoc]

theorem Version.exact : Exact decode fun version => Der.encodeUnsigned version.number := by
  intro octets version rest read
  rcases Option.bind_eq_some_iff.mp read with ⟨⟨number, after⟩, numberRead, read⟩
  rcases Option.bind_eq_some_iff.mp read with ⟨found, made, read⟩
  cases read
  have same : version.number = number := by simpa using List.find?_some made
  show octets = Der.encodeUnsigned version.number ++ rest
  rw [same]
  exact Der.exact_unsigned _ _ _ numberRead

theorem SerialNumber.ofContent?_eq_some {content : Octets} {serial : SerialNumber}
    (made : ofContent? content = some serial) : content = serial.content ∧ serial.IsReadable := by
  simp only [ofContent?, Option.ite_none_right_eq_some, Option.some.injEq] at made
  rcases made with ⟨readable, rfl⟩
  exact ⟨rfl, readable⟩

theorem SerialNumber.exact : Exact decode encode :=
  Exact.of_content fun _ _ made => (ofContent?_eq_some made).1

theorem SerialNumber.isReadable_of_decode {octets rest : Octets} {serial : SerialNumber}
    (read : decode octets = some (serial, rest)) : serial.IsReadable := by
  rcases Option.bind_eq_some_iff.mp read with ⟨⟨content, after⟩, _, read⟩
  rcases Option.bind_eq_some_iff.mp read with ⟨found, made, read⟩
  cases read
  exact (ofContent?_eq_some made).2

/-! ## What readers have read -/

namespace Reader

variable {reader : Reader} {octets rest : Octets}

theorem isReadable_of_extension {extension : Extension}
    (read : reader.extension octets = some (extension, rest)) :
    extension.oid.isReadable = true := by
  rcases Der.decodeNested_eq_some read with ⟨content, _, _, read⟩
  rcases Option.bind_eq_some_iff.mp read with ⟨⟨oid, afterOid⟩, oidRead, read⟩
  rcases Option.bind_eq_some_iff.mp read with ⟨⟨critical, afterCritical⟩, _, read⟩
  rcases Option.bind_eq_some_iff.mp read with ⟨⟨value, last⟩, _, read⟩
  cases read
  exact Oid.isReadable_of_decode oidRead

theorem IsLawful.isReadable_of_name (lawful : reader.IsLawful) {name : Name}
    (read : reader.name octets = some (name, rest)) : name.IsReadable :=
  Der.forall_of_decodeList (fun octets part rest => lawful.readable octets rest part) read

/-- A signed part that was read is one that can be read. -/
theorem IsLawful.isReadable_of_tbs (lawful : reader.IsLawful) {tbs : TbsCertificate}
    (read : reader.tbs octets = some (tbs, rest)) : tbs.IsReadable := by
  rcases Der.decodeNested_eq_some read with ⟨content, _, _, read⟩
  rcases Option.bind_eq_some_iff.mp read with ⟨version, _, read⟩
  rcases Option.bind_eq_some_iff.mp read with ⟨⟨serialNumber, _⟩, serialNumberRead, read⟩
  rcases Option.bind_eq_some_iff.mp read with ⟨⟨signatureAlgorithm, _⟩, algorithmRead, read⟩
  rcases Option.bind_eq_some_iff.mp read with ⟨⟨issuer, _⟩, issuerRead, read⟩
  rcases Option.bind_eq_some_iff.mp read with ⟨validity, _, read⟩
  rcases Option.bind_eq_some_iff.mp read with ⟨⟨subject, _⟩, subjectRead, read⟩
  rcases Option.bind_eq_some_iff.mp read with ⟨⟨publicKey, _⟩, publicKeyRead, read⟩
  rcases Option.bind_eq_some_iff.mp read with ⟨issuerId, _, read⟩
  rcases Option.bind_eq_some_iff.mp read with ⟨subjectId, _, read⟩
  rcases Option.bind_eq_some_iff.mp read with ⟨⟨extensions, last⟩, extensionsRead, read⟩
  cases read
  refine
    { serialNumber := SerialNumber.isReadable_of_decode serialNumberRead
      signatureAlgorithm := AlgorithmIdentifier.isReadable_of_decode algorithmRead
      issuer := lawful.isReadable_of_name issuerRead
      subject := lawful.isReadable_of_name subjectRead
      publicKey := PublicKeyInfo.isReadable_of_decode publicKeyRead
      extensions := ?_ }
  cases extensions with
  | none => exact List.forall_mem_nil _
  | some list =>
      rcases lawful.found _ _ _ _ _ extensionsRead with ⟨start, fieldRead⟩
      rcases Der.decodeNested_eq_some fieldRead with ⟨inner, _, _, listRead⟩
      exact Der.forall_of_decodeList (fun _ _ _ => isReadable_of_extension) listRead

end Reader

/-- A certificate that was read is one that can be read. -/
theorem Certificate.isReadable_of_decode {octets rest : Octets} {certificate : Certificate}
    (read : decode octets = some (certificate, rest)) : certificate.IsReadable := by
  rcases Der.decodeNested_eq_some read with ⟨content, _, _, read⟩
  rcases Option.bind_eq_some_iff.mp read with ⟨⟨tbs, afterTbs⟩, tbsRead, read⟩
  rcases Option.bind_eq_some_iff.mp read with ⟨⟨algorithm, afterAlgorithm⟩, algorithmRead, read⟩
  rcases Option.bind_eq_some_iff.mp read with ⟨⟨signature, last⟩, _, read⟩
  cases read
  exact ⟨Reader.usual_isLawful.isReadable_of_tbs tbsRead,
    AlgorithmIdentifier.isReadable_of_decode algorithmRead⟩

/-! ## The stricter reader -/

instance (attributes : List NameAttribute) :
    Decidable (Der.IsAscending NameAttribute.encode attributes) :=
  inferInstanceAs (Decidable (List.Pairwise _ _))

/-- Reads a set of attributes that stand in ascending order. -/
def RelativeName.decodeAscending : Decoder RelativeName := fun octets => do
  let (attributes, rest) ← Der.decodeList Der.Tag.set NameAttribute.decode octets
  if ascending : Der.IsAscending NameAttribute.encode attributes then
    some (⟨attributes, ascending⟩, rest)
  else none

theorem RelativeName.decodeAscending_eq_some {octets rest : Octets} {name : RelativeName} :
    decodeAscending octets = some (name, rest) ↔
      Der.decodeList Der.Tag.set NameAttribute.decode octets = some (name.members, rest) := by
  cases list : Der.decodeList Der.Tag.set NameAttribute.decode octets with
  | none => simp [decodeAscending, list]
  | some pair =>
      rcases pair with ⟨attributes, after⟩
      simp only [decodeAscending, list, Option.bind_eq_bind, Option.bind_some,
        Option.dite_none_right_eq_some, Option.some.injEq, Prod.mk.injEq]
      constructor
      · rintro ⟨ascending, rfl, rfl⟩
        exact ⟨rfl, rfl⟩
      · rintro ⟨rfl, rfl⟩
        exact ⟨name.ascending, rfl, rfl⟩

theorem RelativeName.exact : Exact decodeAscending encode := by
  intro octets name rest read
  exact NameAttribute.exact.list _ _ _ (decodeAscending_eq_some.mp read)

/-- Reads a version above the first. -/
def Version.decodeLater : Decoder Version :=
  Der.decodeOnly decode (· ≠ .v1)

theorem Version.decodeLater_eq_some {octets rest : Octets} {version : Version} :
    decodeLater octets = some (version, rest) ↔
      decode octets = some (version, rest) ∧ version ≠ .v1 := by
  rw [decodeLater, Der.decodeOnly_eq_some, decide_eq_true_eq]

namespace Reader

/-- The reader that reads only what is written: a field that comes next, a version above the
first, that an extension is critical, and attributes in ascending order. -/
def distinguished : Reader where
  field := Der.decodeNextField
  version := Version.decodeLater
  critical := Der.decodeOptional Der.Tag.boolean (Der.decodeOnly Der.decodeBoolean fun value => value)
  relativeName := RelativeName.decodeAscending

theorem distinguished_isLawful : distinguished.IsLawful where
  skips _ _ _ beyond := Der.decodeNextField_absent beyond
  finds _ _ _ _ _ _ numbered readsIf := readsIf.nextField numbered
  found _ _ _ _ _ read := Der.exists_of_decodeNextField read
  version version later bound rest :=
    Version.decodeLater_eq_some.mpr ⟨version.reads bound rest, later⟩
  notCritical _ absent := Der.decodeOptional_absent absent
  critical := Reads.optional ((Der.reads_boolean true).only rfl)
  relativeName name bound rest result := by
    rcases result with ⟨found, after⟩
    refine RelativeName.decodeAscending_eq_some.trans ?_
    rw [RelativeName.readsIf_members name bound]
    simp [Der.SetOf.ext_iff]
  readable octets rest name read := Der.forall_of_decodeList
    (fun _ _ _ => NameAttribute.isReadable_of_decode)
    (RelativeName.decodeAscending_eq_some.mp read)

/-! ### Nothing but written forms -/

theorem exact_version : Exact (distinguished.wrapped 0 distinguished.version)
    fun version => TbsCertificate.encodeVersion (version.getD .v1) := by
  have nested : Exact (Der.decodeNested (Der.Tag.constructedField 0) distinguished.version)
      TbsCertificate.encodeVersion := by
    intro octets version rest read
    rcases Der.decodeNested_eq_some read with ⟨content, shape, _, read⟩
    rcases Version.decodeLater_eq_some.mp read with ⟨versionRead, later⟩
    rw [TbsCertificate.encodeVersion, if_neg later, shape, Version.exact _ _ _ versionRead,
      List.append_nil]
  intro octets version rest read
  rw [nested.nextField _ _ _ read]
  cases version <;> rfl

theorem exact_critical : Exact distinguished.critical
    fun critical => if critical.getD false then Der.encodeBoolean true else [] := by
  have written : Exact (Der.decodeOnly Der.decodeBoolean fun value => value)
      fun critical => if critical then Der.encodeBoolean true else [] := by
    intro octets critical rest read
    rcases Der.decodeOnly_eq_some.mp read with ⟨criticalRead, rfl⟩
    exact Der.exact_boolean _ _ _ criticalRead
  intro octets critical rest read
  rw [written.optional _ _ _ read]
  cases critical <;> rfl

theorem exact_extension : Exact distinguished.extension Extension.encode := by
  refine Exact.nested fun octets extension rest read => ?_
  rcases Option.bind_eq_some_iff.mp read with ⟨⟨oid, afterOid⟩, oidRead, read⟩
  rcases Option.bind_eq_some_iff.mp read with ⟨⟨critical, afterCritical⟩, criticalRead, read⟩
  rcases Option.bind_eq_some_iff.mp read with ⟨⟨value, last⟩, valueRead, read⟩
  cases read
  rw [Der.exact_oid _ _ _ oidRead, exact_critical _ _ _ criticalRead,
    Der.exact_octetString _ _ _ valueRead]
  simp only [List.append_assoc]

theorem exact_extensions : Exact (distinguished.wrapped 3 distinguished.extensions)
    TbsCertificate.encodeExtensions :=
  exact_extension.list.nested.nextField

theorem exact_name : Exact distinguished.name Name.encode :=
  RelativeName.exact.list

theorem exact_id (number : Nat) :
    Exact (distinguished.id number) (TbsCertificate.encodeId number) :=
  (BitString.exact_as _).nextField

theorem exact_tbs : Exact distinguished.tbs TbsCertificate.encode := by
  refine Exact.nested fun octets tbs rest read => ?_
  rcases Option.bind_eq_some_iff.mp read with ⟨⟨version, rest₀⟩, versionRead, read⟩
  rcases Option.bind_eq_some_iff.mp read with ⟨⟨serialNumber, rest₁⟩, serialNumberRead, read⟩
  rcases Option.bind_eq_some_iff.mp read with ⟨⟨signatureAlgorithm, rest₂⟩, algorithmRead, read⟩
  rcases Option.bind_eq_some_iff.mp read with ⟨⟨issuer, rest₃⟩, issuerRead, read⟩
  rcases Option.bind_eq_some_iff.mp read with ⟨⟨validity, rest₄⟩, validityRead, read⟩
  rcases Option.bind_eq_some_iff.mp read with ⟨⟨subject, rest₅⟩, subjectRead, read⟩
  rcases Option.bind_eq_some_iff.mp read with ⟨⟨publicKey, rest₆⟩, publicKeyRead, read⟩
  rcases Option.bind_eq_some_iff.mp read with ⟨⟨issuerId, rest₇⟩, issuerIdRead, read⟩
  rcases Option.bind_eq_some_iff.mp read with ⟨⟨subjectId, rest₈⟩, subjectIdRead, read⟩
  rcases Option.bind_eq_some_iff.mp read with ⟨⟨extensions, rest₉⟩, extensionsRead, read⟩
  cases read
  rw [exact_version _ _ _ versionRead, SerialNumber.exact _ _ _ serialNumberRead,
    AlgorithmIdentifier.exact _ _ _ algorithmRead, exact_name _ _ _ issuerRead,
    Period.exact _ _ _ validityRead, exact_name _ _ _ subjectRead,
    PublicKeyInfo.exact _ _ _ publicKeyRead, exact_id 1 _ _ _ issuerIdRead,
    exact_id 2 _ _ _ subjectIdRead, exact_extensions _ _ _ extensionsRead]
  simp only [List.append_assoc]

end Reader

/-! ## What is written again -/

/-- Whether octets are a signed part as it is written: whether the stricter reader takes them. -/
def IsDistinguished (octets : Octets) : Prop :=
  (Der.complete Reader.distinguished.tbs octets).isSome = true

instance (octets : Octets) : Decidable (IsDistinguished octets) :=
  inferInstanceAs (Decidable (_ = true))

/-- A signed part is written again as it was exactly if the stricter reader takes it. -/
theorem TbsCertificate.encode_eq_iff {octets : Octets} {tbs : TbsCertificate}
    (read : Der.complete decode octets = some tbs) :
    tbs.encode = octets ↔ IsDistinguished octets := by
  constructor
  · rintro rfl
    rcases Der.complete_decodeNested_encode.mp read with ⟨short, _⟩
    have readable := Reader.usual_isLawful.isReadable_of_tbs (Der.complete_eq_some.mp read)
    have taken := ((Reader.distinguished_isLawful.fillsIf_tbs tbs).fills readable).complete short
    exact Option.isSome_of_eq_some (Der.complete_decodeNested_encode.mpr ⟨short, taken⟩)
  · intro taken
    rcases Option.isSome_iff_exists.mp taken with ⟨strict, strictRead⟩
    obtain rfl := Reader.exact_tbs.of_complete strictRead
    have readable :=
      Reader.distinguished_isLawful.isReadable_of_tbs (Der.complete_eq_some.mp strictRead)
    rcases Der.complete_decodeNested_encode.mp read with ⟨short, content⟩
    have same := ((Reader.usual_isLawful.fillsIf_tbs strict).fills readable).complete short
    rw [Option.some.inj (content.symm.trans same)]

/-- The octets of the signed part of a certificate: the first of its parts. -/
def signedOctets? (octets : Octets) : Option Octets := do
  let content ← Der.complete (Der.decodeTagged Der.Tag.sequence) octets
  let (_, rest) ← Der.decodeElement content
  return content.take (content.length - rest.length)

theorem signedOctets?_encode {content rest : Octets}
    (short : (Der.encode Der.Tag.sequence content ++ rest).length ≤ Der.maxLength) :
    signedOctets? (Der.encode Der.Tag.sequence (Der.encode Der.Tag.sequence content ++ rest)) =
      some (Der.encode Der.Tag.sequence content) := by
  have inner : content.length ≤ Der.maxLength := by
    have part := Der.length_content_le Der.Tag.sequence content
    rw [List.length_append] at short
    omega
  have first := Der.decodeElement_encode Der.Tag.sequence inner rest
  have whole : Der.complete (Der.decodeTagged Der.Tag.sequence)
      (Der.encode Der.Tag.sequence (Der.encode Der.Tag.sequence content ++ rest)) =
        some (Der.encode Der.Tag.sequence content ++ rest) := by
    have element := Der.decodeElement_encode Der.Tag.sequence short []
    rw [List.append_nil] at element
    rw [Der.complete_eq_some, Der.decodeTagged, element]
    rfl
  simp [signedOctets?, whole, first]

namespace Certificate

/-- The octets of a certificate are those of its signed part, and what is written for the rest. -/
theorem exists_signedOctets {octets : Octets} {certificate : Certificate}
    (read : Der.complete decode octets = some certificate) :
    ∃ signed, signedOctets? octets = some signed ∧
      Der.complete TbsCertificate.decode signed = some certificate.tbs ∧
        octets = Der.encode Der.Tag.sequence
          (signed ++ certificate.signatureAlgorithm.encode ++ certificate.signature.encode) := by
  rcases Der.decodeNested_eq_some (Der.complete_eq_some.mp read) with ⟨content, shape, short, read⟩
  rcases Option.bind_eq_some_iff.mp read with ⟨⟨tbs, afterTbs⟩, tbsRead, read⟩
  rcases Option.bind_eq_some_iff.mp read with ⟨⟨algorithm, afterAlgorithm⟩, algorithmRead, read⟩
  rcases Option.bind_eq_some_iff.mp read with ⟨⟨signature, last⟩, signatureRead, read⟩
  cases read
  rcases Der.decodeNested_eq_some tbsRead with ⟨inner, innerShape, innerShort, innerRead⟩
  have behind : afterTbs = algorithm.encode ++ signature.encode := by
    rw [AlgorithmIdentifier.exact _ _ _ algorithmRead, BitString.exact _ _ _ signatureRead,
      List.append_nil]
  subst innerShape shape
  refine ⟨Der.encode Der.Tag.sequence inner, ?_, ?_, ?_⟩
  · rw [List.append_nil]
    exact signedOctets?_encode short
  · exact Der.complete_decodeNested_encode.mpr ⟨innerShort, Der.complete_eq_some.mpr innerRead⟩
  · rw [behind, List.append_nil, List.append_assoc]

/-- A certificate is written again as it was exactly if its signed part is. -/
theorem encode_eq_iff {octets signed : Octets} {certificate : Certificate}
    (read : Der.complete decode octets = some certificate)
    (part : signedOctets? octets = some signed) :
    certificate.encode = octets ↔ certificate.tbs.encode = signed := by
  constructor
  · rintro rfl
    rcases Der.complete_decodeNested_encode.mp read with ⟨short, _⟩
    rw [List.append_assoc] at short
    have written := signedOctets?_encode short
    rw [encode, List.append_assoc] at part
    exact Option.some.inj (written.symm.trans part)
  · rintro rfl
    rcases exists_signedOctets read with ⟨signed, found, _, shape⟩
    rw [encode, shape, Option.some.inj (part.symm.trans found)]

end Certificate

end CertAuthority.X509
