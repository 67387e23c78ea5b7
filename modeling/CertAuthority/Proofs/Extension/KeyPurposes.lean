import CertAuthority.Proofs.Der.Identifier
import CertAuthority.Proofs.Extension.AlternativeNames
import Mathlib.Data.Set.List

/-!
# Purposes and identifiers of keys

Lists of purposes and the identifiers of keys are written and read back.

Octets are read as purposes exactly if they are a list of identifiers that are
all known (`ExtendedKeyUsage.exists_decode_eq_ok`).  Otherwise the first that is
not known is named (`ExtendedKeyUsage.exists_message`), if `Oid` holds all of
them; where it does not, the list is not read, and nothing is named.

Purposes and the identifier of a certificate's own key have one form as octets,
so that what was read is written as it was.  The identifier of the key that
signed is left out of this: what may stand behind it is dropped.
-/

namespace CertAuthority

open Der (Identifier Oid)
open ExtensionValue (ReadsBack)

/-! ## Identifiers of purposes -/

namespace Purpose

/-- The identifier with a number among those of key purposes. -/
def keyPurpose (number : Nat) : Identifier :=
  ⟨1, 3, [6, 1, 5, 5, 7, 3, number], by decide, by decide⟩

/-- The identifiers by their arcs. -/
def identifier : Purpose → Identifier
  | any => ⟨2, 5, [29, 37, 0], by decide, by decide⟩
  | serverAuth => keyPurpose 1
  | clientAuth => keyPurpose 2
  | codeSigning => keyPurpose 3
  | emailProtection => keyPurpose 4
  | ipsecEndSystem => keyPurpose 5
  | ipsecTunnel => keyPurpose 6
  | ipsecUser => keyPurpose 7
  | timeStamping => keyPurpose 8
  | ocspSigning => keyPurpose 9
  | microsoftServerGatedCrypto => ⟨1, 3, [6, 1, 4, 1, 311, 10, 3, 3], by decide, by decide⟩
  | netscapeServerGatedCrypto => ⟨2, 16, [840, 1, 113730, 4, 1], by decide, by decide⟩

/-- The identifiers of all purposes. -/
def identifiers : List Identifier :=
  all.map identifier

/-- The identifiers of all purposes, as they are held. -/
def oids : List Oid :=
  all.map oid

theorem mem_all (purpose : Purpose) : purpose ∈ all := by
  cases purpose <;> decide

theorem mem_identifiers {named : Identifier} :
    named ∈ identifiers ↔ ∃ purpose : Purpose, purpose.identifier = named := by
  simp [identifiers, mem_all]

theorem mem_oids {found : Oid} : found ∈ oids ↔ ∃ purpose : Purpose, purpose.oid = found := by
  simp [oids, mem_all]

theorem isHeldBy_oid (purpose : Purpose) : purpose.identifier.IsHeldBy purpose.oid where
  readable := purpose.oid_readable
  content := by cases purpose <;> decide +kernel
  arcs := by cases purpose <;> rfl

/-- An identifier is known if the one that holds it is. -/
theorem mem_identifiers_iff {named : Identifier} {found : Oid} (held : named.IsHeldBy found) :
    named ∈ identifiers ↔ found ∈ oids := by
  rw [mem_identifiers, mem_oids]
  constructor
  · rintro ⟨purpose, rfl⟩
    exact ⟨purpose, purpose.isHeldBy_oid.oid_unique held⟩
  · rintro ⟨purpose, rfl⟩
    exact ⟨purpose, purpose.isHeldBy_oid.eq_of_held held⟩

/-- The first of some identifiers that is unknown is held by the first unknown one of those that
hold them. -/
theorem find?_of_held {named : List Identifier} {found : List Oid}
    (held : List.Forall₂ Identifier.IsHeldBy named found) {unknown : Identifier}
    (first : named.find? (· ∉ identifiers) = some unknown) :
    ∃ oid, unknown.IsHeldBy oid ∧ found.find? (· ∉ oids) = some oid := by
  induction held with
  | nil => cases first
  | @cons identifier oid _ _ holds _ ih =>
      have alike := mem_identifiers_iff holds
      by_cases known : identifier ∈ identifiers
      · rw [List.find?_cons_of_neg (by simpa using known)] at first
        rw [List.find?_cons_of_neg (by simpa using alike.mp known)]
        exact ih first
      · rw [List.find?_cons_of_pos (by simpa using known), Option.some.injEq] at first
        rw [List.find?_cons_of_pos (by simpa [alike] using known)]
        exact ⟨oid, first ▸ holds, rfl⟩

/-! ## Purposes of identifiers -/

theorem ofOid_eq_ok {found : Oid} {purpose : Purpose} (read : ofOid found = .ok purpose) :
    purpose.oid = found := by
  simpa using List.find?_some (orError_eq_ok.mp read)

theorem ofOid_eq_error {found : Oid} (unknown : found ∉ oids) :
    ofOid found = .error (.unsupportedPurpose found) := by
  have none : all.find? (·.oid = found) = none := by
    simpa [List.find?_eq_none, oids] using unknown
  rw [ofOid, none]
  rfl

theorem eq_map_of_mapM_ofOid {found : List Oid} {purposes : List Purpose}
    (read : found.mapM ofOid = .ok purposes) : found = purposes.map oid := by
  induction found generalizing purposes with
  | nil =>
      cases read
      rfl
  | cons head tail ih =>
      simp only [List.mapM_cons, Except.bind_eq_ok] at read
      rcases read with ⟨purpose, first, others, rest, made⟩
      cases made
      rw [List.map_cons, ofOid_eq_ok first, ← ih rest]

/-- Identifiers are not purposes if one is unknown, and the first of them is reported. -/
theorem mapM_ofOid_eq_error {found : List Oid} {error : Error} :
    found.mapM ofOid = .error error ↔
      ∃ oid, found.find? (· ∉ oids) = some oid ∧ error = .unsupportedPurpose oid := by
  induction found with
  | nil => simp [pure, Except.pure]
  | cons head tail ih =>
      by_cases known : head ∈ oids
      · rcases mem_oids.mp known with ⟨purpose, rfl⟩
        rw [List.mapM_cons, ofOid_oid, List.find?_cons_of_neg (by simpa using known), ← ih]
        cases tail.mapM ofOid <;> simp [bind, Except.bind, pure, Except.pure]
      · rw [List.mapM_cons, ofOid_eq_error known, List.find?_cons_of_pos (by simpa using known)]
        simp [bind, Except.bind, eq_comm]

end Purpose

/-! ## Lists of purposes -/

namespace ExtendedKeyUsage

variable {octets : Octets}

theorem encode_eq (usage : ExtendedKeyUsage) :
    usage.encode = Identifier.encodeList (usage.purposes.map Purpose.identifier) := by
  rw [encode, Identifier.encodeList, List.flatMap_map]
  simp only [fun purpose : Purpose => purpose.isHeldBy_oid.encode_eq]

/-- Octets that are read as purposes are the ones that are written for them. -/
theorem encode_of_decode {usage : ExtendedKeyUsage} (read : decode octets = .ok usage) :
    usage.encode = octets := by
  simp only [decode, Except.bind_eq_ok, orError_eq_ok] at read
  rcases read with ⟨found, identifiers, purposes, known, made⟩
  cases made
  have written := Der.exact_oid.list.of_complete identifiers
  rw [written, Purpose.eq_map_of_mapM_ofOid known, List.flatMap_map, encode]

/-- Octets are purposes if they are a list of known identifiers. -/
theorem exists_decode_eq_ok (short : octets.length ≤ Der.maxLength) :
    (∃ usage, decode octets = .ok usage) ↔
      ∃ named, octets = Identifier.encodeList named ∧
        ∀ identifier ∈ named, identifier ∈ Purpose.identifiers := by
  constructor
  · rintro ⟨usage, read⟩
    refine ⟨usage.purposes.map Purpose.identifier, ?_, fun identifier member => ?_⟩
    · rw [← encode_eq, encode_of_decode read]
    · rcases List.mem_map.mp member with ⟨purpose, _, rfl⟩
      exact Purpose.mem_identifiers.mpr ⟨purpose, rfl⟩
  · rintro ⟨named, rfl, known⟩
    have ofPurposes : named ∈ Set.range (List.map Purpose.identifier) := by
      rw [Set.range_list_map]
      exact fun identifier member => Purpose.mem_identifiers.mp (known identifier member)
    rcases ofPurposes with ⟨purposes, rfl⟩
    exact ⟨⟨purposes⟩, readsBack ⟨purposes⟩ _ (congrArg Except.ok (encode_eq ⟨purposes⟩)) short⟩

/-! ## Lists that are refused -/

theorem decode_eq_error {error : Error} :
    decode octets = .error error ↔
      identifiers? octets = none ∧ error = .malformedExtension ∨
        ∃ found oid, identifiers? octets = some found ∧
          found.find? (· ∉ Purpose.oids) = some oid ∧ error = .unsupportedPurpose oid := by
  cases read : identifiers? octets with
  | none => simp [decode, read, eq_comm]
  | some found =>
      have later : decode octets = .error error ↔ found.mapM Purpose.ofOid = .error error := by
        simp only [decode, read, orError_some_bind]
        cases found.mapM Purpose.ofOid <;> simp [bind, Except.bind, pure, Except.pure]
      rw [later, Purpose.mapM_ofOid_eq_error]
      simp

theorem kind_of_decode {error : Error} (failed : decode octets = .error error) :
    error.kind = .encoding := by
  rcases decode_eq_error.mp failed with ⟨_, rfl⟩ | ⟨_, _, _, _, rfl⟩ <;> rfl

/-- The first identifier of a list that is unknown is named. -/
theorem exists_message {named : List Identifier} {unknown : Identifier}
    (short : (Identifier.encodeList named).length ≤ Der.maxLength)
    (supported : ∀ identifier ∈ named, identifier ∉ Purpose.identifiers → identifier.IsSupported)
    (first : named.find? (· ∉ Purpose.identifiers) = some unknown) :
    ∃ error, decode (Identifier.encodeList named) = .error error ∧
      error.message =
        "Encoding error: Unsupported extended key usage option " ++ unknown.toString := by
  have each : ∀ identifier ∈ named, ∃ oid, identifier.IsHeldBy oid := by
    intro identifier member
    by_cases known : identifier ∈ Purpose.identifiers
    · rcases Purpose.mem_identifiers.mp known with ⟨purpose, rfl⟩
      exact ⟨purpose.oid, purpose.isHeldBy_oid⟩
    · exact Identifier.exists_isHeldBy_iff.mpr (supported identifier member known)
  rcases exists_forall₂_iff.mpr each with ⟨found, held⟩
  rcases Purpose.find?_of_held held first with ⟨oid, holds, reported⟩
  have read : identifiers? (Identifier.encodeList named) = some found :=
    (Identifier.reads_encodeList held).complete short
  refine ⟨.unsupportedPurpose oid,
    decode_eq_error.mpr (Or.inr ⟨found, oid, read, reported, rfl⟩), ?_⟩
  rw [← holds.toString_eq]
  rfl

end ExtendedKeyUsage

/-! ## Reading back -/

theorem SubjectKeyIdentifier.encode_of_decode? {octets : Octets} {key : SubjectKeyIdentifier}
    (read : decode? octets = some key) : key.encode = octets := by
  rcases Option.map_eq_some_iff.mp read with ⟨identifier, found, rfl⟩
  exact (Der.exact_octetString.of_complete found).symm

/-- Purposes and identifiers of keys are written and read back.  Of octets, lists of known
identifiers are read as purposes; the first unknown one is named, if those that are unknown can be
held.  Purposes and the identifier of a certificate's own key are written as they were read. -/
theorem purposes_and_keys_readBack (usage : ExtendedKeyUsage) (subject : SubjectKeyIdentifier)
    (authority : AuthorityKeyIdentifier) (octets : Octets) :
    ((∃ written, ExtensionValue.encode usage = .ok written) ∧ ReadsBack usage usage) ∧
      ((∃ written, ExtensionValue.encode subject = .ok written) ∧ ReadsBack subject subject) ∧
      ((∃ written, ExtensionValue.encode authority = .ok written) ∧
        ReadsBack authority authority) ∧
      (octets.length ≤ Der.maxLength →
        ((∃ read : ExtendedKeyUsage, ExtensionValue.decode octets = .ok read) ↔
          ∃ named, octets = Identifier.encodeList named ∧
            ∀ identifier ∈ named, identifier ∈ Purpose.identifiers) ∧
        ∀ named unknown, octets = Identifier.encodeList named →
          (∀ identifier ∈ named,
            identifier ∉ Purpose.identifiers → identifier.IsSupported) →
          named.find? (· ∉ Purpose.identifiers) = some unknown →
          ∃ error, ExtendedKeyUsage.decode octets = .error error ∧ error.message =
            "Encoding error: Unsupported extended key usage option " ++ unknown.toString) ∧
      (∀ error, ExtendedKeyUsage.decode octets = .error error → error.kind = .encoding) ∧
      (∀ read : ExtendedKeyUsage, ExtensionValue.decode octets = .ok read →
        ExtensionValue.encode read = .ok octets) ∧
      ∀ read : SubjectKeyIdentifier, ExtensionValue.decode octets = .ok read →
        ExtensionValue.encode read = .ok octets := by
  refine ⟨⟨⟨_, rfl⟩, usage.readsBack⟩, ⟨⟨_, rfl⟩, subject.readsBack⟩,
    ⟨⟨_, rfl⟩, authority.readsBack⟩, ?lists, ?refused, ?purposes, ?key⟩
  case lists =>
    refine fun short => ⟨ExtendedKeyUsage.exists_decode_eq_ok short, ?_⟩
    rintro named unknown rfl supported first
    exact ExtendedKeyUsage.exists_message short supported first
  case refused => exact fun _ failed => ExtendedKeyUsage.kind_of_decode failed
  case purposes => exact fun _ read => congrArg Except.ok (ExtendedKeyUsage.encode_of_decode read)
  case key =>
    exact fun _ read =>
      congrArg Except.ok (SubjectKeyIdentifier.encode_of_decode? (orError_eq_ok.mp read))

/-- A purpose that is listed twice is read back and written again, and so is the identifier of a
key; and behind a known identifier, 1.3.6.1.5.5.7.3.17 is unknown and named. -/
theorem purposes_and_keys_readBack_unknown :
    ExtensionValue.decode [0x30, 0x0c, 0x06, 0x04, 0x55, 0x1d, 0x25, 0x00, 0x06, 0x04, 0x55, 0x1d,
        0x25, 0x00] = .ok (⟨[.any, .any]⟩ : ExtendedKeyUsage) ∧
      ExtensionValue.encode (⟨[.any, .any]⟩ : ExtendedKeyUsage) = .ok [0x30, 0x0c, 0x06, 0x04,
        0x55, 0x1d, 0x25, 0x00, 0x06, 0x04, 0x55, 0x1d, 0x25, 0x00] ∧
      ExtensionValue.encode (⟨[0x01, 0x02]⟩ : SubjectKeyIdentifier) =
        .ok [0x04, 0x02, 0x01, 0x02] ∧
      ∃ error,
        ExtendedKeyUsage.decode [0x30, 0x14, 0x06, 0x08, 0x2b, 0x06, 0x01, 0x05, 0x05, 0x07, 0x03,
            0x01, 0x06, 0x08, 0x2b, 0x06, 0x01, 0x05, 0x05, 0x07, 0x03, 0x11] = .error error ∧
          error.message =
            "Encoding error: Unsupported extended key usage option 1.3.6.1.5.5.7.3.17" := by
  have laws := purposes_and_keys_readBack ⟨[.any, .any]⟩ ⟨[0x01, 0x02]⟩ ⟨[0x01, 0x02]⟩
  have readBack : ExtensionValue.decode [0x30, 0x0c, 0x06, 0x04, 0x55, 0x1d, 0x25, 0x00, 0x06,
      0x04, 0x55, 0x1d, 0x25, 0x00] = .ok (⟨[.any, .any]⟩ : ExtendedKeyUsage) :=
    (laws []).1.2 _ rfl (by decide)
  refine ⟨readBack, (laws _).2.2.2.2.2.1 _ readBack, (laws _).2.2.2.2.2.2 _ rfl, ?_⟩
  exact ((laws _).2.2.2.1 (by decide)).2 [Purpose.keyPurpose 1, Purpose.keyPurpose 17]
    (Purpose.keyPurpose 17) (by decide +kernel) (by decide +kernel) (by decide +kernel)

/-- Behind a known identifier, 2.999.1 is unknown and not named: its second arc is too large to be
held. -/
theorem largeSecondArc_is_not_named :
    [0x30, 0x0f, 0x06, 0x08, 0x2b, 0x06, 0x01, 0x05, 0x05, 0x07, 0x03, 0x01, 0x06, 0x03, 0x88,
        0x37, 0x01] = Identifier.encodeList
          [Purpose.serverAuth.identifier, ⟨2, 999, [1], by decide, by decide⟩] ∧
      Purpose.serverAuth.identifier ∈ Purpose.identifiers ∧
      ⟨2, 999, [1], by decide, by decide⟩ ∉ Purpose.identifiers ∧
      Identifier.toString ⟨2, 999, [1], by decide, by decide⟩ = "2.999.1" ∧
      ¬ ∃ error,
        ExtendedKeyUsage.decode [0x30, 0x0f, 0x06, 0x08, 0x2b, 0x06, 0x01, 0x05, 0x05, 0x07, 0x03,
            0x01, 0x06, 0x03, 0x88, 0x37, 0x01] = .error error ∧
          error.message = "Encoding error: Unsupported extended key usage option 2.999.1" := by
  refine ⟨by decide +kernel, by decide, by decide, by decide +kernel, ?_⟩
  rintro ⟨error, failed, named⟩
  have unread : ExtendedKeyUsage.decode [0x30, 0x0f, 0x06, 0x08, 0x2b, 0x06, 0x01, 0x05, 0x05, 0x07,
      0x03, 0x01, 0x06, 0x03, 0x88, 0x37, 0x01] = .error .malformedExtension := rfl
  rw [unread, Except.error.injEq] at failed
  rw [← failed] at named
  exact absurd named (by decide)

end CertAuthority
