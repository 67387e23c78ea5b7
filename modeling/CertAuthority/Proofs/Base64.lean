import CertAuthority.Base64
import CertAuthority.Proofs.Octets
import Mathlib.Tactic.IntervalCases

/-!
# Reading base64 back

Three octets are found again in their four characters bit by bit.  Groups are
read one after another, and the last group with the filling that its missing
octets leave.
-/

namespace CertAuthority.Base64

/-! ## Characters -/

theorem eq_of_bits {left right : UInt8}
    (bits : ∀ place, place < 8 →
      left.toBitVec.getLsbD place = right.toBitVec.getLsbD place) : left = right := by
  apply UInt8.eq_of_toBitVec_eq
  ext place inside
  simpa [BitVec.getLsbD_eq_getElem inside] using bits place inside

theorem value?_character {value : UInt8} (small : value &&& 0xc0 = 0) :
    value? (character value) = some value := by
  revert small
  exact Octets.forall_octet (fun value => value &&& 0xc0 = 0 →
    value? (character value) = some value) (by decide +kernel) value

/-- Whether an octet may stand in base64 text. -/
def isCharacter (octet : UInt8) : Bool :=
  (value? octet).isSome || octet == filling

theorem character_ne_filling : ∀ value, character value ≠ filling :=
  Octets.forall_octet _ (by decide +kernel)

theorem isCharacter_character : ∀ value, isCharacter (character value) = true :=
  Octets.forall_octet _ (by decide +kernel)

theorem isCharacter_encode {octets : Octets} {octet : UInt8} (member : octet ∈ encode octets) :
    isCharacter octet = true := by
  fun_induction encode octets with
  | case1 => cases member
  | case2 first =>
      simp only [encodeGroup, List.take_succ_cons, List.take_zero, List.cons_append,
        List.nil_append, List.mem_cons, List.not_mem_nil, or_false] at member
      rcases member with rfl | rfl | rfl | rfl
      · exact isCharacter_character _
      · exact isCharacter_character _
      · rfl
      · rfl
  | case3 first second =>
      simp only [encodeGroup, List.take_succ_cons, List.take_zero, List.cons_append,
        List.nil_append, List.mem_cons, List.not_mem_nil, or_false] at member
      rcases member with rfl | rfl | rfl | rfl
      · exact isCharacter_character _
      · exact isCharacter_character _
      · exact isCharacter_character _
      · rfl
  | case4 first second third rest ih =>
      rcases List.mem_append.mp member with group | later
      · simp only [encodeGroup, List.mem_cons, List.not_mem_nil, or_false] at group
        rcases group with rfl | rfl | rfl | rfl <;> exact isCharacter_character _
      · exact ih later

/-! ## Groups -/

section Group

variable (first second third : UInt8)

theorem high_bits_first : (first >>> 2) &&& 0xc0 = 0 := by
  apply eq_of_bits
  intro place inside
  interval_cases place <;> simp

theorem high_bits_second : ((first &&& 0x03) <<< 4 ||| second >>> 4) &&& 0xc0 = 0 := by
  apply eq_of_bits
  intro place inside
  interval_cases place <;> simp

theorem high_bits_third : ((second &&& 0x0f) <<< 2 ||| third >>> 6) &&& 0xc0 = 0 := by
  apply eq_of_bits
  intro place inside
  interval_cases place <;> simp

theorem high_bits_fourth : (third &&& 0x3f) &&& 0xc0 = 0 := by
  apply eq_of_bits
  intro place inside
  interval_cases place <;> simp

theorem join_first :
    (first >>> 2) <<< 2 ||| ((first &&& 0x03) <<< 4 ||| second >>> 4) >>> 4 = first := by
  apply eq_of_bits
  intro place inside
  interval_cases place <;> simp

theorem join_second :
    ((first &&& 0x03) <<< 4 ||| second >>> 4) <<< 4 |||
      ((second &&& 0x0f) <<< 2 ||| third >>> 6) >>> 2 = second := by
  apply eq_of_bits
  intro place inside
  interval_cases place <;> simp

theorem join_third :
    ((second &&& 0x0f) <<< 2 ||| third >>> 6) <<< 6 ||| (third &&& 0x3f) = third := by
  apply eq_of_bits
  intro place inside
  interval_cases place <;> simp

theorem decodeGroup?_group :
    decodeGroup? (character (first >>> 2))
      (character ((first &&& 0x03) <<< 4 ||| second >>> 4))
      (character ((second &&& 0x0f) <<< 2 ||| third >>> 6)) (character (third &&& 0x3f)) =
      some [first, second, third] := by
  simp only [decodeGroup?, value?_character (high_bits_first first),
    value?_character (high_bits_second first second),
    value?_character (high_bits_third second third), value?_character (high_bits_fourth third),
    Option.bind_eq_bind, Option.bind_some]
  rw [join_first, join_second, join_third]
  rfl

end Group

/-! ## Last groups -/

theorem decodeLast?_two_fillings {a b first second third : UInt8}
    (group : decodeGroup? a b (character 0) (character 0) = some [first, second, third])
    (written : encode [first] = [a, b, filling, filling]) :
    decodeLast? a b filling filling = some [first] := by
  simp [decodeLast?, group, written]

theorem decodeLast?_filling {a b c first second third : UInt8} (kept : c ≠ filling)
    (group : decodeGroup? a b c (character 0) = some [first, second, third])
    (written : encode [first, second] = [a, b, c, filling]) :
    decodeLast? a b c filling = some [first, second] := by
  simp [decodeLast?, kept, group, written]

theorem decode?_encode_one (first : UInt8) : decode? (encode [first]) = some [first] :=
  decodeLast?_two_fillings (decodeGroup?_group first 0 0) rfl

theorem decode?_encode_two (first second : UInt8) :
    decode? (encode [first, second]) = some [first, second] :=
  decodeLast?_filling (character_ne_filling _) (decodeGroup?_group first second 0) rfl

theorem decode?_group (first second third : UInt8) (rest : Octets) :
    decode? (encodeGroup first second third ++ rest) =
      (decode? rest).map ([first, second, third] ++ ·) := by
  have group := decodeGroup?_group first second third
  have fourth := character_ne_filling (third &&& 0x3f)
  cases rest with
  | nil =>
      simp only [encodeGroup, List.append_nil, decode?, decodeLast?]
      rw [if_pos fourth, group]
      rfl
  | cons next rest =>
      simp only [encodeGroup, List.cons_append, List.nil_append, decode?, group]
      cases decode? (next :: rest) <;> rfl

/-- What is written is read. -/
theorem decode?_encode (octets : Octets) : decode? (encode octets) = some octets := by
  fun_induction encode octets with
  | case1 => rfl
  | case2 first => exact decode?_encode_one first
  | case3 first second => exact decode?_encode_two first second
  | case4 first second third rest ih =>
      rw [decode?_group, ih]
      rfl

theorem encode_ne_nil {octets : Octets} (written : octets ≠ []) : encode octets ≠ [] := by
  intro empty
  have read := decode?_encode octets
  rw [empty] at read
  exact written (Option.some.inj read).symm

end CertAuthority.Base64
