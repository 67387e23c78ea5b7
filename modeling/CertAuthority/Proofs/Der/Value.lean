import CertAuthority.Der.Oid
import CertAuthority.Der.Value
import CertAuthority.Proofs.Der.Condition
import Mathlib.Algebra.Order.BigOperators.Group.List

/-!
# Reading values back

Booleans, numbers, strings and object identifiers are read back from what is
written for them.  The shortest octets of a number with a clear leading bit are
also its shortest two's complement form, so that a number which is not negative
keeps its value when its octets are read as those of a signed one.
-/

namespace CertAuthority.Der

theorem reads_boolean (value : Bool) : Reads decodeBoolean (encodeBoolean value) value := by
  intro bound rest
  have content := reads_tagged Tag.boolean [if value then 0xff else 0x00] bound rest
  simp only [decodeBoolean, encodeBoolean, content, Option.bind_eq_bind, Option.bind_some]
  cases value <;> rfl

theorem reads_octetString (octets : Octets) :
    Reads decodeOctetString (encodeOctetString octets) octets :=
  reads_tagged Tag.octetString octets

/-- An identifier is read back unless it is too short for that. -/
theorem readsIf_oid (oid : Oid) : ReadsIf (oid.isReadable = true) Oid.decode oid.encode oid := by
  intro bound rest result
  have content := reads_tagged Tag.objectIdentifier oid.content bound rest
  simp only [Oid.decode, Oid.encode, content, Option.bind_eq_bind, Option.bind_some,
    Oid.ofContent?, dif_pos oid.wellFormed]
  cases oid.isReadable <;> simp [eq_comm]

theorem reads_oid {oid : Oid} (readable : oid.isReadable = true) :
    Reads Oid.decode oid.encode oid :=
  (readsIf_oid oid).reads readable

/-! ## Numbers -/

theorem unsignedContent_cases (value : Nat) :
    value = 0 ∧ unsignedContent value = [0x00] ∨
      ∃ first rest, Octets.ofNat value = first :: rest ∧ first ≠ 0x00 ∧
        unsignedContent value = if first < 0x80 then first :: rest else 0x00 :: first :: rest := by
  cases written : Octets.ofNat value with
  | nil =>
      refine Or.inl ⟨?_, by simp [unsignedContent, written]⟩
      rw [← Octets.toNat_ofNat value, written, Octets.toNat_nil]
  | cons first rest =>
      refine Or.inr ⟨first, rest, rfl, Octets.head_ofNat_ne_zero written, ?_⟩
      simp [unsignedContent, written]

theorem unsignedContent_ne_nil (value : Nat) : unsignedContent value ≠ [] := by
  rcases unsignedContent_cases value with ⟨_, shape⟩ | ⟨first, rest, _, _, shape⟩
  · simp [shape]
  · rw [shape]
    split <;> simp

@[simp]
theorem toNat_unsignedContent (value : Nat) : Octets.toNat (unsignedContent value) = value := by
  rcases unsignedContent_cases value with ⟨rfl, shape⟩ | ⟨first, rest, written, _, shape⟩
  · rw [shape]
    rfl
  · have number : Octets.toNat (first :: rest) = value := by
      rw [← written, Octets.toNat_ofNat]
    rw [shape]
    split
    · exact number
    · rw [Octets.toNat_cons, number]
      simp

theorem length_unsignedContent_le (value : Nat) :
    (unsignedContent value).length ≤ Octets.byteLength value + 1 := by
  rcases unsignedContent_cases value with ⟨_, shape⟩ | ⟨first, rest, written, _, shape⟩
  · simp [shape]
  · have length : (first :: rest).length = Octets.byteLength value := by
      rw [← written, Octets.length_ofNat]
    rw [shape]
    split <;> simp only [List.length_cons] at length ⊢ <;> omega

theorem length_encodeUnsigned_le {value width : Nat} (small : value < 256 ^ width)
    (few : width < maxLength) : (encodeUnsigned value).length ≤ width + 7 := by
  have content := (length_unsignedContent_le value).trans
    (Nat.succ_le_succ (Octets.byteLength_le small))
  have written := length_encode_le Tag.integer (content.trans few)
  rw [encodeUnsigned]
  omega

/-- A sequence of numbers is as long as the numbers are many and wide. -/
theorem length_encode_unsigned_le_width {values : List Nat} {width : Nat}
    (small : ∀ value ∈ values, value < 256 ^ width)
    (few : values.length * (width + 7) + 6 ≤ maxLength) :
    (encode Tag.sequence (values.flatMap encodeUnsigned)).length ≤
      values.length * (width + 7) + 6 := by
  have each : ∀ value ∈ values, (encodeUnsigned value).length ≤ width + 7 := by
    intro value member
    have atLeast := Nat.le_mul_of_pos_left (width + 7) (List.length_pos_of_mem member)
    exact length_encodeUnsigned_le (small value member) (by omega)
  have content : (values.flatMap encodeUnsigned).length ≤ values.length * (width + 7) := by
    have sum := List.sum_le_card_nsmul (values.map fun value => (encodeUnsigned value).length)
      (width + 7) (by simpa using each)
    simpa [List.length_flatMap] using sum
  have whole := length_encode_le Tag.sequence (content.trans (by omega))
  omega

/-- A sequence of numbers is short if the numbers and their widths are few. -/
theorem length_encode_unsigned_le {values : List Nat} {width : Nat}
    (small : ∀ value ∈ values, value < 256 ^ width)
    (few : values.length * (width + 7) + 6 ≤ maxLength) :
    (encode Tag.sequence (values.flatMap encodeUnsigned)).length ≤ maxLength :=
  (length_encode_unsigned_le_width small few).trans few

theorem reads_unsigned (value : Nat) : Reads decodeUnsigned (encodeUnsigned value) value := by
  apply (reads_tagged Tag.integer (unsignedContent value)).map
  intro rest
  simp [unsignedOfContent?]

theorem isSignedContent_unsignedContent (value : Nat) :
    isSignedContent (unsignedContent value) = true := by
  rcases unsignedContent_cases value with ⟨_, shape⟩ | ⟨first, rest, _, positive, shape⟩
  · rw [shape]
    rfl
  · rw [shape]
    split
    · rename_i clear
      have notNegative : first ≠ 0xff := by
        rintro rfl
        exact absurd clear (by decide)
      unfold isSignedContent
      split <;> simp_all
    · rename_i set
      simpa [isSignedContent] using UInt8.not_lt.mp set

theorem signedValue_unsignedContent (value : Nat) :
    signedValue (unsignedContent value) = value := by
  rcases List.exists_cons_of_ne_nil (unsignedContent_ne_nil value) with ⟨first, rest, shape⟩
  have number : Octets.toNat (first :: rest) = value := by
    rw [← shape, toNat_unsignedContent]
  have clear : first < 0x80 := by
    rcases unsignedContent_cases value with ⟨_, zero⟩ | ⟨head, tail, _, _, positive⟩
    · rw [zero] at shape
      cases shape
      decide
    · rw [positive] at shape
      split at shape
      · rename_i small
        cases shape
        exact small
      · cases shape
        decide
  rw [shape]
  simp [signedValue, clear, number]

/-! ## Strings of bits -/

namespace BitString

theorem ofContent?_content (bits : BitString) : ofContent? bits.content = some bits := by
  have fitting := bits.fitting
  simp only [isUnusedCount, Bool.and_eq_true, decide_eq_true_eq] at fitting
  have unused : (UInt8.ofNat bits.unused).toNat = bits.unused := by
    rw [UInt8.toNat_ofNat']
    omega
  simp [content, ofContent?, unused, bits.fitting]

theorem reads_as (tag : Tag) (bits : BitString) :
    Reads (decodeAs tag) (Der.encode tag bits.content) bits := by
  apply (reads_tagged tag bits.content).map
  intro rest
  simp [ofContent?_content]

theorem reads (bits : BitString) : Reads decode bits.encode bits :=
  reads_as Tag.bitString bits

theorem length_encode_ofOctets_le {octets : Octets} (few : octets.length < maxLength) :
    (ofOctets octets).encode.length ≤ octets.length + 7 := by
  have content : (ofOctets octets).content.length = octets.length + 1 := rfl
  exact length_encode_le Tag.bitString (content.le.trans few)

@[simp]
theorem wholeOctets?_ofOctets (octets : Octets) :
    (ofOctets octets).wholeOctets? = some octets := rfl

private theorem octetBits_octetOfBits_eight (a b c d e f g h : Bool) :
    octetBits (octetOfBits [a, b, c, d, e, f, g, h]) = [a, b, c, d, e, f, g, h] := by
  revert a b c d e f g h
  decide

theorem octetBits_octetOfBits (bits : List Bool) :
    octetBits (octetOfBits bits) = (List.range 8).map fun place => bits.getD place false := by
  have same : octetOfBits bits =
      octetOfBits ((List.range 8).map fun place => bits.getD place false) := by
    simp [octetOfBits, List.range_succ]
  rw [same]
  exact octetBits_octetOfBits_eight _ _ _ _ _ _ _ _

theorem flatMap_packBits (count : Nat) (bits : List Bool) :
    (packBits count bits).flatMap octetBits =
      (List.range (8 * count)).map fun place => bits.getD place false := by
  induction count generalizing bits with
  | zero => rfl
  | succ count ih =>
      have later : ∀ place, (bits.drop 8).getD place false = bits.getD (8 + place) false := by
        intro place
        simp [List.getD_eq_getElem?_getD]
      rw [packBits, List.flatMap_cons, octetBits_octetOfBits, ih, Nat.mul_succ, Nat.add_comm,
        List.range_add, List.map_append, List.map_map]
      simp only [later, Function.comp_def]

/-- The bits that are packed are the ones that are used. -/
theorem bits_ofBits (bits : List Bool) : (ofBits bits).bits = bits := by
  have enough : bits.length ≤ 8 * ((bits.length + 7) / 8) := by omega
  have used : 8 * ((bits.length + 7) / 8) - (8 * ((bits.length + 7) / 8) - bits.length) =
      bits.length := by omega
  simp only [BitString.bits, ofBits, flatMap_packBits, List.length_map, List.length_range, used]
  apply List.ext_getElem (by simpa using enough)
  intro place _ inside
  simp [List.getD_eq_getElem?_getD, inside]

end BitString

end CertAuthority.Der
