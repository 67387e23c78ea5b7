import CertAuthority.Host.IpAddress
import Mathlib.Tactic.IntervalCases

/-!
# Octets of network addresses

An address is made of four or sixteen octets, and of no others than its own.
Twelve fixed octets begin those of an address of version 6 that stands for one
of version 4, and the octets of the latter follow them.
-/

namespace CertAuthority.IpAddress

/-! ## Addresses from octets -/

theorem wordOf_wordOctets (word : UInt16) :
    wordOf (word >>> 8).toUInt8 word.toUInt8 = word := by
  apply UInt16.eq_of_toBitVec_eq
  ext place inside
  simp only [wordOf, UInt16.toBitVec_or, UInt16.toBitVec_shiftLeft, UInt8.toBitVec_toUInt16,
    UInt16.toBitVec_toUInt8, UInt16.toBitVec_shiftRight]
  interval_cases place <;> simp [BitVec.getElem_setWidth, -BitVec.setWidth_setWidth]

theorem wordOctets_wordOf (high low : UInt8) : wordOctets (wordOf high low) = [high, low] := by
  have first : (wordOf high low >>> 8).toUInt8 = high := by
    apply UInt8.eq_of_toBitVec_eq
    ext place inside
    simp only [wordOf, UInt16.toBitVec_or, UInt16.toBitVec_shiftLeft, UInt8.toBitVec_toUInt16,
      UInt16.toBitVec_toUInt8, UInt16.toBitVec_shiftRight]
    interval_cases place <;> simp [-BitVec.setWidth_setWidth]
  have second : (wordOf high low).toUInt8 = low := by
    apply UInt8.eq_of_toBitVec_eq
    ext place inside
    simp only [wordOf, UInt16.toBitVec_or, UInt16.toBitVec_shiftLeft, UInt8.toBitVec_toUInt16,
      UInt16.toBitVec_toUInt8]
    interval_cases place <;> simp [-BitVec.setWidth_setWidth]
  rw [wordOctets, first, second]

theorem ofOctets?_octets (address : IpAddress) : ofOctets? address.octets = some address := by
  cases address with
  | v4 a b c d => rfl
  | v6 a b c d e f g h =>
      simp only [octets, wordOctets, List.flatMap_cons, List.flatMap_nil, List.cons_append,
        List.nil_append, ofOctets?, wordOf_wordOctets]

theorem octets_of_ofOctets? {written : Octets} {address : IpAddress}
    (made : ofOctets? written = some address) : address.octets = written := by
  unfold ofOctets? at made
  split at made
  · cases made
    rfl
  · cases made
    simp only [octets, wordOctets_wordOf, List.flatMap_cons, List.flatMap_nil, List.cons_append,
      List.nil_append]
  · cases made

/-- Four or sixteen octets are an address, and no others. -/
theorem exists_ofOctets?_iff {written : Octets} :
    (∃ address, ofOctets? written = some address) ↔ written.length = 4 ∨ written.length = 16 := by
  constructor
  · rintro ⟨address, made⟩
    rw [← octets_of_ofOctets? made]
    cases address with
    | v4 a b c d => exact Or.inl rfl
    | v6 a b c d e f g h => exact Or.inr rfl
  · rintro (four | sixteen)
    · match written, four with
      | [a, b, c, d], _ => exact ⟨_, rfl⟩
    · match written, sixteen with
      | [a, b, c, d, e, f, g, h, i, j, k, l, m, n, o, p], _ => exact ⟨_, rfl⟩

/-! ## Addresses that stand for others -/

/-- The octets in front of those of an address of version 4 in one of version 6. -/
def mappedPrefix : Octets :=
  List.replicate 10 0x00 ++ [0xff, 0xff]

theorem eq_of_mapped {address : IpAddress} (mapped : mappedPrefix <+: address.octets) :
    ∃ g h, address = v6 0 0 0 0 0 0xffff g h := by
  rcases mapped with ⟨rest, same⟩
  cases address with
  | v4 a b c d => cases same
  | v6 a b c d e f g h =>
      refine ⟨g, h, ?_⟩
      simp only [mappedPrefix, octets, wordOctets, List.replicate, List.flatMap_cons,
        List.cons_append, List.nil_append, List.cons.injEq] at same
      rw [← wordOf_wordOctets a, ← wordOf_wordOctets b, ← wordOf_wordOctets c,
        ← wordOf_wordOctets d, ← wordOf_wordOctets e, ← wordOf_wordOctets f]
      simp only [← same]
      rfl

theorem octets_of_mapped {address : IpAddress} (mapped : mappedPrefix <+: address.octets) :
    address.octets = mappedPrefix ++ address.unmapped.octets := by
  rcases eq_of_mapped mapped with ⟨g, h, rfl⟩
  rfl

theorem unmapped_of_not_mapped {address : IpAddress}
    (other : ¬ mappedPrefix <+: address.octets) : address.unmapped = address := by
  unfold unmapped
  split
  · rename_i g h
    exact absurd ⟨wordOctets g ++ wordOctets h, rfl⟩ other
  · rfl

@[simp]
theorem unmapped_unmapped (address : IpAddress) : address.unmapped.unmapped = address.unmapped := by
  by_cases mapped : mappedPrefix <+: address.octets
  · rcases eq_of_mapped mapped with ⟨g, h, rfl⟩
    rfl
  · rw [unmapped_of_not_mapped mapped, unmapped_of_not_mapped mapped]

/-- An address is not written with more octets than it has itself. -/
theorem length_octets_unmapped_le (address : IpAddress) :
    address.unmapped.octets.length ≤ address.octets.length := by
  by_cases mapped : mappedPrefix <+: address.octets
  · rw [octets_of_mapped mapped, List.length_append]
    exact Nat.le_add_left _ _
  · rw [unmapped_of_not_mapped mapped]

end CertAuthority.IpAddress
