import CertAuthority.Proofs.Octets
import CertAuthority.Text.Utf8

/-!
# Seven-bit text

Octets below 128 are the text of the characters with these numbers, and a text
has only such octets if it has only such characters.  Nor does a text have such
an octet without the character.
-/

namespace CertAuthority.Text

theorem utf8_ofList (chars : List Char) :
    utf8 (String.ofList chars) = chars.flatMap String.utf8EncodeChar := by
  simp [utf8, String.toUTF8, List.utf8Encode]

theorem utf8_append (left right : String) : utf8 (left ++ right) = utf8 left ++ utf8 right := by
  simp [utf8, String.toUTF8]

theorem utf8_eq_nil {text : String} : utf8 text = [] ↔ text = "" := by
  refine ⟨fun empty => ?_, fun empty => by rw [empty]; rfl⟩
  have read := ofUtf8?_utf8 text
  rw [empty] at read
  exact (Option.some.inj ((ofUtf8?_utf8 "").symm.trans read)).symm

/-- The text of seven-bit characters. -/
def asciiText (octets : Octets) : String :=
  String.ofList (octets.map fun octet => Char.ofNat octet.toNat)

theorem utf8EncodeChar_ascii {octet : UInt8} (ascii : octet < 128) :
    String.utf8EncodeChar (Char.ofNat octet.toNat) = [octet] := by
  revert ascii
  exact Octets.forall_octet (fun octet => octet < 128 →
    String.utf8EncodeChar (Char.ofNat octet.toNat) = [octet]) (by decide +kernel) octet

theorem utf8_asciiText {octets : Octets} (ascii : isAscii octets = true) :
    utf8 (asciiText octets) = octets := by
  rw [asciiText, utf8_ofList, List.flatMap_map]
  induction octets with
  | nil => rfl
  | cons head tail ih =>
      simp only [isAscii, List.all_cons, Bool.and_eq_true, decide_eq_true_eq] at ascii
      rw [List.flatMap_cons, utf8EncodeChar_ascii ascii.1, ih ascii.2]
      rfl

theorem ofUtf8?_ascii {octets : Octets} (ascii : isAscii octets = true) :
    ofUtf8? octets = some (asciiText octets) := by
  rw [← ofUtf8?_utf8 (asciiText octets), utf8_asciiText ascii]

/-! ## Characters -/

/-- Letters, digits and any seven-bit marks are seven-bit characters. -/
theorem ascii_of_isAlphanum_or_contains {marks : List Char} {char : Char}
    (ascii : marks.all (·.toNat < 128) = true)
    (among : (char.isAlphanum || marks.contains char) = true) : char.toNat < 128 := by
  have upTo (last : Char) (small : last.toNat < 128) (le : char.val ≤ last.val) :
      char.toNat < 128 := (UInt32.le_iff_toNat_le.mp le).trans_lt small
  rcases Bool.or_eq_true_iff.mp among with alphanumeric | mark
  · rcases Bool.or_eq_true_iff.mp alphanumeric with letter | digit
    · rcases Bool.or_eq_true_iff.mp letter with upper | lower
      · exact upTo 'Z' (by decide) (of_decide_eq_true upper).2
      · exact upTo 'z' (by decide) (of_decide_eq_true (Bool.and_eq_true_iff.mp lower).2)
    · exact upTo '9' (by decide) (of_decide_eq_true (Bool.and_eq_true_iff.mp digit).2)
  · exact of_decide_eq_true (List.all_eq_true.mp ascii char (List.contains_iff_mem.mp mark))

/-- The octets of a character are all seven-bit codes if it is one itself: the octets of every
other character end in one with the leading bit set. -/
theorem isAscii_utf8EncodeChar (char : Char) :
    isAscii (String.utf8EncodeChar char) = true ↔ char.toNat < 128 := by
  have high : ¬ UInt8.ofNat (char.toNat % 64 + 128) < 128 := by
    rw [UInt8.lt_iff_toNat_lt, UInt8.toNat_ofNat']
    exact Nat.not_lt.mpr (show 128 ≤ (char.toNat % 64 + 128) % 256 by omega)
  have low : char.toNat ≤ 127 → UInt8.ofNat char.toNat < 128 := by
    intro small
    rw [UInt8.lt_iff_toNat_lt, UInt8.toNat_ofNat']
    exact show char.toNat % 256 < 128 by omega
  have value : char.val.toNat = char.toNat := rfl
  unfold String.utf8EncodeChar
  simp only [value]
  split
  · rename_i small
    simp [isAscii, low small, Nat.lt_succ_of_le small]
  · rename_i large
    refine iff_of_false (fun ascii => ?_) (by omega)
    have every := List.all_eq_true.mp ascii (UInt8.ofNat (char.toNat % 64 + 128)) (by
      split
      · simp only [List.mem_cons, true_or, or_true]
      · split <;> simp only [List.mem_cons, true_or, or_true])
    exact high (of_decide_eq_true every)

/-- A seven-bit code among the octets of a character is the character. -/
theorem eq_of_mem_utf8EncodeChar {char : Char} {octet : UInt8}
    (member : octet ∈ String.utf8EncodeChar char) (ascii : octet < 128) :
    char = Char.ofNat octet.toNat := by
  have value : char.val.toNat = char.toNat := rfl
  rw [UInt8.lt_iff_toNat_lt] at ascii
  unfold String.utf8EncodeChar at member
  simp only [value] at member
  split at member
  · rename_i small
    rw [List.mem_singleton.mp member, UInt8.toNat_ofNat', Nat.mod_eq_of_lt (by omega),
      Char.ofNat_toNat]
  · -- Every other character has octets with the leading bit only.
    exfalso
    have high : 128 ≤ octet.toNat := by
      split at member
      · simp only [List.mem_cons, List.not_mem_nil, or_false] at member
        rcases member with rfl | rfl <;> rw [UInt8.toNat_ofNat'] <;> omega
      · split at member
        all_goals
          simp only [List.mem_cons, List.not_mem_nil, or_false] at member
        · rcases member with rfl | rfl | rfl <;> rw [UInt8.toNat_ofNat'] <;> omega
        · rcases member with rfl | rfl | rfl | rfl <;> rw [UInt8.toNat_ofNat'] <;> omega
    exact high.not_gt ascii

theorem mem_toList_of_mem_utf8 {text : String} {octet : UInt8} (member : octet ∈ utf8 text)
    (ascii : octet < 128) : Char.ofNat octet.toNat ∈ text.toList := by
  rw [← String.ofList_toList (s := text), utf8_ofList] at member
  rcases List.mem_flatMap.mp member with ⟨char, inside, among⟩
  rwa [← eq_of_mem_utf8EncodeChar among ascii]

/-- Octets of a text have a property if those of its characters have it. -/
theorem all_utf8 (property : UInt8 → Bool) (text : String) :
    (utf8 text).all property =
      text.toList.all fun char => (String.utf8EncodeChar char).all property := by
  rw [← List.all_flatMap, ← utf8_ofList, String.ofList_toList]

/-- Whether a text has a character of more than seven bits. -/
def isForeign (text : String) : Bool :=
  text.toList.any fun char => 128 ≤ char.toNat

theorem isAscii_utf8 (text : String) : isAscii (utf8 text) = !isForeign text := by
  rw [isAscii, all_utf8, isForeign, List.not_any_eq_all_not]
  congr 1
  funext char
  rw [Bool.eq_iff_iff]
  exact (isAscii_utf8EncodeChar char).trans (by simp)

end CertAuthority.Text
