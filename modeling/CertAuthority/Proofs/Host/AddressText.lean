import CertAuthority.Proofs.Host.AddressOctets
import CertAuthority.Proofs.Octets
import Mathlib.Data.List.TakeWhile

/-!
# Texts of network addresses

The text that is written for an address is read as the address again
(`IpAddress.parse?_toString`).  An address of version 4 has no other text, since
its octets are read without zeros in front; of the many texts of an address of
version 6 it is the one with the longest run of zeros left out.

Digits come first, then octets and words, then what stands between separators.
The text of version 6 is cut at its double colon, which is the first one since
no word is empty.  Last, the characters that texts of addresses are made of tell
them from mailboxes and host names.
-/

namespace CertAuthority.IpAddress

/-! ## Digits -/

/-- The number that a digit makes of the number in front of it. -/
def addDigit? (base value : Nat) (digit : Char) : Option Nat := do
  let place ← Octets.hexValue? digit
  if place < base then some (value * base + place) else none

theorem digitsValue?_eq (base limit : Nat) (digits : List Char) :
    digitsValue? base limit digits =
      if digits = [] ∨ limit < digits.length then none else digits.foldlM (addDigit? base) 0 :=
  rfl

theorem addDigit?_eq_some {base value result : Nat} {digit : Char} :
    addDigit? base value digit = some result ↔
      ∃ place, Octets.hexValue? digit = some place ∧ place < base ∧
        result = value * base + place := by
  simp only [addDigit?, Option.bind_eq_bind, Option.bind_eq_some_iff,
    Option.ite_none_right_eq_some, Option.some.injEq]
  exact exists_congr fun _ => and_congr_right fun _ => and_congr_right fun _ => eq_comm

theorem hexValue?_digitChar {place : Nat} (small : place < 16) :
    Octets.hexValue? (Nat.digitChar place) = some place := by
  have every : ∀ place < 16, Octets.hexValue? (Nat.digitChar place) = some place := by decide
  exact every place small

theorem foldlM_toDigits {base : Nat} (large : 1 < base) (small : base ≤ 16) (value : Nat) :
    (Nat.toDigits base value).foldlM (addDigit? base) 0 = some value := by
  induction value using Nat.strongRecOn with
  | ind value ih =>
      by_cases single : value < base
      · rw [Nat.toDigits_of_lt_base single]
        have added : addDigit? base 0 value.digitChar = some value :=
          addDigit?_eq_some.mpr
            ⟨value, hexValue?_digitChar (single.trans_le small), single, by omega⟩
        simp [added]
      · have place : value % base < base := Nat.mod_lt _ (by omega)
        have added : addDigit? base (value / base) (value % base).digitChar = some value :=
          addDigit?_eq_some.mpr ⟨value % base, hexValue?_digitChar (place.trans_le small), place,
            (Nat.div_add_mod' value base).symm⟩
        rw [Nat.toDigits_of_base_le large (Nat.le_of_not_lt single), List.foldlM_append,
          ih (value / base) (Nat.div_lt_self (by omega) large)]
        simp [added]

theorem digitsValue?_toDigits {base limit value : Nat} (large : 1 < base) (small : base ≤ 16)
    (positive : 0 < limit) (fits : value < base ^ limit) :
    digitsValue? base limit (Nat.toDigits base value) = some value := by
  have length := (Nat.length_toDigits_le_iff large positive).mpr fits
  rw [digitsValue?_eq, if_neg (by simp [length]), foldlM_toDigits large small]

theorem eq_digitChar_of_hexValue? {digit : Char} {place : Nat}
    (read : Octets.hexValue? digit = some place) (small : place < 10) :
    digit = Nat.digitChar place := by
  unfold Octets.hexValue? at read
  split at read
  · rename_i decimal
    have low : '0'.toNat ≤ digit.toNat := decimal.1
    have value : digit.toNat - '0'.toNat = place := Option.some.inj read
    rw [← Char.toNat_inj, Nat.toNat_digitChar_of_lt_ten small]
    show digit.toNat = '0'.toNat + place
    omega
  · -- The letters stand for ten and more.
    split at read
    · have value := Option.some.inj read
      omega
    · split at read
      · have value := Option.some.inj read
        omega
      · cases read

/-- Digits behind a number that is not zero are those of the number that they make of it. -/
theorem toDigits_append_of_foldlM {digits : List Char} {value result : Nat} (positive : 0 < value)
    (read : digits.foldlM (addDigit? 10) value = some result) :
    Nat.toDigits 10 value ++ digits = Nat.toDigits 10 result := by
  induction digits generalizing value with
  | nil =>
      cases read
      exact List.append_nil _
  | cons digit digits ih =>
      rcases Option.bind_eq_some_iff.mp read with ⟨next, added, read⟩
      rcases addDigit?_eq_some.mp added with ⟨place, value?, small, rfl⟩
      rw [← ih (by omega) read, eq_digitChar_of_hexValue? value? small, Nat.mul_comm value 10,
        ← Nat.toDigits_append_toDigits (by decide) positive small, Nat.toDigits_of_lt_base small,
        List.append_assoc, List.singleton_append]

/-- A number is read from no other decimal digits than its own, except for zeros in front. -/
theorem eq_toDigits_of_digitsValue? {limit value : Nat} {digits : List Char}
    (read : digitsValue? 10 limit digits = some value)
    (plain : digits.head? = some '0' → digits.length = 1) : digits = Nat.toDigits 10 value := by
  rw [digitsValue?_eq] at read
  split at read
  · cases read
  · rename_i written
    cases digits with
    | nil => exact absurd (Or.inl rfl) written
    | cons digit digits =>
        rcases Option.bind_eq_some_iff.mp read with ⟨first, added, read⟩
        rcases addDigit?_eq_some.mp added with ⟨place, value?, small, rfl⟩
        rw [Nat.zero_mul, Nat.zero_add] at read
        have same := eq_digitChar_of_hexValue? value? small
        rcases Nat.eq_zero_or_pos place with rfl | positive
        · have alone : digits = [] := by simpa [same] using plain (by rw [same]; rfl)
          subst alone
          cases read
          rw [same, Nat.toDigits_of_lt_base small]
        · rw [← toDigits_append_of_foldlM positive read, same, Nat.toDigits_of_lt_base small,
            List.singleton_append]

/-! ## Four octets -/

/-- An octet is read exactly from its decimal digits. -/
theorem parseOctet?_eq_some {digits : List Char} {octet : UInt8} :
    parseOctet? digits = some octet ↔ digits = Nat.toDigits 10 octet.toNat := by
  constructor
  · intro read
    rcases Option.bind_eq_some_iff.mp read with ⟨value, found, read⟩
    simp only [Option.ite_none_left_eq_some, not_or, Option.some.injEq] at read
    rcases read with ⟨⟨small, plain⟩, rfl⟩
    have same : (UInt8.ofNat value).toNat = value := by
      rw [UInt8.toNat_ofNat']
      omega
    rw [same]
    exact eq_toDigits_of_digitsValue? found fun zero =>
      Decidable.not_not.mp fun longer => plain ⟨zero, longer⟩
  · rintro rfl
    have value : digitsValue? 10 3 (Nat.toDigits 10 octet.toNat) = some octet.toNat :=
      digitsValue?_toDigits (by decide) (by decide) (by decide)
        (octet.toNat_lt.trans (by decide))
    have plain : (Nat.toDigits 10 octet.toNat).head? = some '0' →
        (Nat.toDigits 10 octet.toNat).length = 1 :=
      Octets.forall_octet (fun octet => (Nat.toDigits 10 octet.toNat).head? = some '0' →
        (Nat.toDigits 10 octet.toNat).length = 1) (by decide +kernel) octet
    have small : ¬ 255 < octet.toNat := Nat.not_lt.mpr (Nat.le_of_lt_succ octet.toNat_lt)
    simp only [parseOctet?, value, Option.bind_eq_bind, Option.bind_some]
    rw [if_neg (not_or.mpr ⟨small, fun leading => leading.2 (plain leading.1)⟩),
      UInt8.ofNat_toNat]

theorem splitChars_eq (separator : Char) (chars : List Char) :
    splitChars separator chars = chars.splitOn separator := by
  induction chars with
  | nil => rfl
  | cons char rest ih =>
      rw [splitChars, ih, List.splitOn_cons_eq_if_modifyHead]
      cases found : rest.splitOn separator with
      | nil => exact absurd found (List.splitOn_ne_nil _ _)
      | cons part parts =>
          by_cases same : char = separator <;> simp [same]

theorem splitChars_intercalate {separator : Char} {parts : List (List Char)}
    (apart : ∀ part ∈ parts, separator ∉ part) (some : parts ≠ []) :
    splitChars separator ([separator].intercalate parts) = parts := by
  rw [splitChars_eq, List.splitOn_intercalate separator apart some]

theorem intercalate_splitChars (separator : Char) (chars : List Char) :
    [separator].intercalate (splitChars separator chars) = chars := by
  rw [splitChars_eq, List.intercalate_splitOn]

theorem mapM_parseOctet?_eq_some {parts : List (List Char)} {octets : Octets} :
    parts.mapM parseOctet? = some octets ↔
      parts = octets.map fun octet => Nat.toDigits 10 octet.toNat := by
  induction parts generalizing octets with
  | nil => cases octets <;> simp
  | cons part parts ih =>
      cases octets with
      | nil => simp [List.mapM_cons, Option.bind_eq_some_iff]
      | cons octet octets => simp [List.mapM_cons, Option.bind_eq_some_iff, ih, parseOctet?_eq_some]

theorem toList_dotted (octets : Octets) :
    (dotted octets).toList =
      ['.'].intercalate (octets.map fun octet => Nat.toDigits 10 octet.toNat) := by
  rw [dotted, String.toList_intercalate, List.map_map]
  simp [Function.comp_def]

theorem eq_or_exists_of_mem_intercalate {separator char : Char} {parts : List (List Char)}
    (member : char ∈ [separator].intercalate parts) :
    char = separator ∨ ∃ part ∈ parts, char ∈ part := by
  induction parts with
  | nil => simp at member
  | cons part parts ih =>
      cases parts with
      | nil => exact Or.inr ⟨part, List.mem_singleton_self _, by simpa using member⟩
      | cons next parts =>
          rw [List.intercalate_cons_cons, List.append_assoc, List.singleton_append,
            List.mem_append, List.mem_cons] at member
          rcases member with inside | same | later
          · exact Or.inr ⟨part, List.mem_cons_self, inside⟩
          · exact Or.inl same
          · exact (ih later).imp_right fun ⟨part, found, inside⟩ =>
              ⟨part, List.mem_cons_of_mem _ found, inside⟩

theorem mem_dotted {octets : Octets} {char : Char} (member : char ∈ (dotted octets).toList) :
    char = '.' ∨ char.isDigit = true := by
  rw [toList_dotted] at member
  refine (eq_or_exists_of_mem_intercalate member).imp_right ?_
  rintro ⟨part, found, inside⟩
  rcases List.mem_map.mp found with ⟨octet, _, rfl⟩
  exact Nat.isDigit_of_mem_toDigits (by decide) (by decide) inside

/-- Four octets are read exactly from their decimal digits with dots between them. -/
theorem parseV4?_eq_some {chars : List Char} {address : IpAddress} :
    parseV4? chars = some address ↔
      ∃ a b c d, address = v4 a b c d ∧ chars = (dotted [a, b, c, d]).toList := by
  constructor
  · intro read
    rcases Option.bind_eq_some_iff.mp read with ⟨octets, found, read⟩
    rw [mapM_parseOctet?_eq_some] at found
    split at read
    · rename_i a b c d
      cases read
      refine ⟨a, b, c, d, rfl, ?_⟩
      rw [toList_dotted, ← found, intercalate_splitChars]
    · cases read
  · rintro ⟨a, b, c, d, rfl, rfl⟩
    have parts : splitChars '.' (dotted [a, b, c, d]).toList =
        [a, b, c, d].map fun octet => Nat.toDigits 10 octet.toNat := by
      rw [toList_dotted]
      refine splitChars_intercalate (fun part member => ?_) (List.cons_ne_nil _ _)
      rcases List.mem_map.mp member with ⟨octet, _, rfl⟩
      exact fun dot => absurd (Nat.isDigit_of_mem_toDigits (by decide) (by decide) dot) (by decide)
    have octets := mapM_parseOctet?_eq_some.mpr parts
    simp [parseV4?, octets]

/-! ## Words -/

theorem toList_hexWord (word : UInt16) : (hexWord word).toList = Nat.toDigits 16 word.toNat :=
  String.toList_ofList

theorem parseWord?_hexWord (word : UInt16) : parseWord? (hexWord word).toList = some word := by
  have value : digitsValue? 16 4 (Nat.toDigits 16 word.toNat) = some word.toNat :=
    digitsValue?_toDigits (by decide) (by decide) (by decide)
      (word.toNat_lt.trans_eq (by decide))
  rw [toList_hexWord, parseWord?, value, Option.map_some, UInt16.ofNat_toNat]

/-- What is read as digits has nothing but digits. -/
theorem exists_hexValue?_of_foldlM {base value result : Nat} {digits : List Char}
    (read : digits.foldlM (addDigit? base) value = some result) :
    ∀ digit ∈ digits, ∃ place, Octets.hexValue? digit = some place := by
  induction digits generalizing value with
  | nil => exact nofun
  | cons digit digits ih =>
      rcases Option.bind_eq_some_iff.mp read with ⟨next, added, read⟩
      rcases addDigit?_eq_some.mp added with ⟨place, found, _⟩
      exact List.forall_mem_cons.mpr ⟨⟨place, found⟩, ih read⟩

theorem exists_hexValue?_of_digitsValue? {base limit value : Nat} {digits : List Char}
    (read : digitsValue? base limit digits = some value) :
    ∀ digit ∈ digits, ∃ place, Octets.hexValue? digit = some place := by
  rw [digitsValue?_eq] at read
  split at read
  · cases read
  · exact exists_hexValue?_of_foldlM read

theorem exists_hexValue?_of_parseWord? {digits : List Char} {word : UInt16}
    (read : parseWord? digits = some word) :
    ∀ digit ∈ digits, ∃ place, Octets.hexValue? digit = some place := by
  rcases Option.map_eq_some_iff.mp read with ⟨value, found, _⟩
  exact exists_hexValue?_of_digitsValue? found

theorem colon_not_mem_hexWord (word : UInt16) : ':' ∉ (hexWord word).toList := by
  intro colon
  rcases exists_hexValue?_of_parseWord? (parseWord?_hexWord word) ':' colon with ⟨_, found⟩
  cases found

theorem parseWords?_hexWords (last : Bool) (words : List UInt16) :
    parseWords? last (words.map fun word => (hexWord word).toList) = some words := by
  induction words with
  | nil => rfl
  | cons word words ih =>
      cases words with
      | nil => simp [parseWords?, parseWord?_hexWord]
      | cons next words =>
          rw [List.map_cons] at ih ⊢
          rw [List.map_cons, parseWords?, ih]
          · simp [parseWord?_hexWord]
          · exact nofun

theorem toList_joinWords (words : List UInt16) :
    (joinWords words).toList = [':'].intercalate (words.map fun word => (hexWord word).toList) := by
  rw [joinWords, String.toList_intercalate, List.map_map]
  rfl

theorem toList_hexWord_ne_nil (word : UInt16) : (hexWord word).toList ≠ [] := by
  rw [toList_hexWord]
  exact Nat.toDigits_ne_nil

theorem toList_joinWords_singleton (word : UInt16) :
    (joinWords [word]).toList = (hexWord word).toList := by
  simp [toList_joinWords]

theorem toList_joinWords_cons (word next : UInt16) (words : List UInt16) :
    (joinWords (word :: next :: words)).toList =
      (hexWord word).toList ++ ':' :: (joinWords (next :: words)).toList := by
  simp only [toList_joinWords, List.map_cons, List.intercalate_cons_cons, List.append_assoc,
    List.singleton_append]

/-- Words do not begin with a colon. -/
theorem exists_toList_joinWords (word : UInt16) (words : List UInt16) :
    ∃ char rest, (joinWords (word :: words)).toList = char :: rest ∧ char ≠ ':' := by
  obtain ⟨char, more, shape⟩ := List.exists_cons_of_ne_nil (toList_hexWord_ne_nil word)
  have other : char ≠ ':' := fun same =>
    colon_not_mem_hexWord word (shape ▸ same ▸ List.mem_cons_self)
  cases words with
  | nil => exact ⟨char, more, (toList_joinWords_singleton word).trans shape, other⟩
  | cons next words =>
      have written := toList_joinWords_cons word next words
      rw [shape, List.cons_append] at written
      exact ⟨char, _, written, other⟩

theorem parseGroup?_joinWords (last : Bool) (words : List UInt16) :
    parseGroup? last (joinWords words).toList = some words := by
  cases words with
  | nil => rfl
  | cons word words =>
      have parts : splitChars ':' (joinWords (word :: words)).toList =
          (word :: words).map fun word => (hexWord word).toList := by
        rw [toList_joinWords]
        refine splitChars_intercalate (fun part member => ?_) (List.cons_ne_nil _ _)
        rcases List.mem_map.mp member with ⟨word, _, rfl⟩
        exact colon_not_mem_hexWord word
      obtain ⟨char, rest, shape, _⟩ := exists_toList_joinWords word words
      rw [parseGroup?, if_neg (by rw [shape]; exact List.cons_ne_nil _ _), parts,
        parseWords?_hexWords]

/-! ## The double colon -/

theorem splitGap?_append {part : List Char} (apart : ':' ∉ part) (rest : List Char) :
    splitGap? (part ++ rest) =
      (splitGap? rest).map fun (before, after) => (part ++ before, after) := by
  induction part with
  | nil => simp
  | cons char part ih =>
      have other : char ≠ ':' := fun same => apart (same ▸ List.mem_cons_self)
      rw [List.cons_append, splitGap?, ih fun later => apart (List.mem_cons_of_mem _ later),
        Option.map_map]
      · rfl
      · exact fun _ same _ => other same

theorem splitGap?_colon {char : Char} (other : char ≠ ':') (rest : List Char) :
    splitGap? (':' :: char :: rest) =
      (splitGap? (char :: rest)).map fun (before, after) => (':' :: before, after) := by
  rw [splitGap?]
  intro gap _ same
  exact other (List.cons.inj same).1

/-- Words are passed over on the way to a double colon. -/
theorem splitGap?_joinWords (words : List UInt16) (rest : List Char) :
    splitGap? ((joinWords words).toList ++ rest) =
      (splitGap? rest).map fun (before, after) => ((joinWords words).toList ++ before, after) := by
  induction words with
  | nil => simp [toList_joinWords]
  | cons word words ih =>
      cases words with
      | nil =>
          rw [toList_joinWords_singleton]
          exact splitGap?_append (colon_not_mem_hexWord word) rest
      | cons next words =>
          -- The colon between two words is not doubled, since the next one is not empty.
          obtain ⟨char, tail, shape, other⟩ := exists_toList_joinWords next words
          rw [shape, List.cons_append] at ih
          rw [toList_joinWords_cons, shape, List.append_assoc,
            splitGap?_append (colon_not_mem_hexWord word), List.cons_append, List.cons_append,
            splitGap?_colon other, ih]
          simp [Function.comp_def]

/-! ## The longest run of zeros -/

theorem replicate_leadingZeros_append (words : List UInt16) :
    List.replicate (leadingZeros words) 0 ++ words.drop (leadingZeros words) = words := by
  have zeros : words.takeWhile (· == 0) = List.replicate (leadingZeros words) 0 :=
    List.eq_replicate_of_mem fun word member => by simpa using List.mem_takeWhile_imp member
  have front := List.takeWhile_prefix (l := words) (· == 0)
  rw [← zeros]
  exact (List.prefix_iff_eq_append.mp front)

/-- The words of the longest run are zeros. -/
theorem exists_run {words : List UInt16} {start place length : Nat}
    (found : longestZeros start words = (place, length)) (some : 0 < length) :
    ∃ before after, words = before ++ (List.replicate length 0 ++ after) ∧
      place = start + before.length := by
  induction words generalizing start with
  | nil =>
      cases found
      exact absurd some (Nat.lt_irrefl 0)
  | cons word words ih =>
      rw [longestZeros] at found
      split at found
      · cases found
        exact ⟨[], _, (replicate_leadingZeros_append _).symm, rfl⟩
      · rcases ih found with ⟨before, after, shape, same⟩
        refine ⟨word :: before, after, by rw [shape, List.cons_append], ?_⟩
        rw [same, List.length_cons]
        omega

/-- Words are written with colons between them, or with a double colon for two or more zeros. -/
theorem compressed_cases (words : List UInt16) :
    compressed words = joinWords words ∨
      ∃ before length after, words = before ++ (List.replicate length 0 ++ after) ∧
        2 ≤ length ∧ compressed words = joinWords before ++ "::" ++ joinWords after := by
  rw [compressed]
  generalize run : longestZeros 0 words = found
  rcases found with ⟨place, length⟩
  by_cases few : length < 2
  · exact Or.inl (if_pos few)
  · rcases exists_run run (by omega) with ⟨before, after, rfl, same⟩
    rw [Nat.zero_add] at same
    refine Or.inr ⟨before, length, after, rfl, Nat.le_of_not_lt few, ?_⟩
    have rest : (before ++ (List.replicate length 0 ++ after)).drop (place + length) = after := by
      rw [← List.append_assoc, List.drop_left']
      simp [same]
    simp only [if_neg few, rest]
    rw [same, List.take_left]

theorem parseV6?_compressed {words : List UInt16} (eight : words.length = 8) :
    parseV6? (compressed words).toList = ofWords? words := by
  rcases compressed_cases words with written | ⟨before, length, after, rfl, two, written⟩
  · have whole := splitGap?_joinWords words []
    rw [List.append_nil] at whole
    rw [written, parseV6?, whole]
    simp [splitGap?, parseGroup?_joinWords]
  · have gap := splitGap?_joinWords before (':' :: ':' :: (joinWords after).toList)
    have text : (compressed (before ++ (List.replicate length 0 ++ after))).toList =
        (joinWords before).toList ++ ':' :: ':' :: (joinWords after).toList := by
      rw [written]
      simp
    simp only [List.length_append, List.length_replicate] at eight
    have missing : 8 - before.length - after.length = length := by omega
    rw [text, parseV6?, gap]
    simp only [splitGap?, Option.map_some, List.append_nil, parseGroup?_joinWords,
      Option.bind_eq_bind, Option.bind_some, missing]
    rw [if_pos (by omega), List.append_assoc]

/-! ## Four octets behind words -/

theorem dot_mem_dotted (a b c d : UInt8) : '.' ∈ (dotted [a, b, c, d]).toList := by
  simp [toList_dotted, List.intercalate_cons_cons]

theorem colon_not_mem_dotted (octets : Octets) : ':' ∉ (dotted octets).toList :=
  fun colon => absurd (mem_dotted colon) (by decide)

/-- Four octets are not read as a word. -/
theorem parseWord?_dotted (a b c d : UInt8) : parseWord? (dotted [a, b, c, d]).toList = none := by
  cases read : parseWord? (dotted [a, b, c, d]).toList with
  | none => rfl
  | some word =>
      rcases exists_hexValue?_of_parseWord? read '.' (dot_mem_dotted a b c d) with ⟨_, found⟩
      cases found

/-- An address of version 6 that stands for one of version 4 is read back. -/
theorem parseV6?_mapped (g h : UInt16) :
    parseV6? ("::ffff:" ++ dotted (wordOctets g ++ wordOctets h)).toList =
      some (v6 0 0 0 0 0 0xffff g h) := by
  generalize written : dotted (wordOctets g ++ wordOctets h) = tail
  have shape : ("::ffff:" ++ tail).toList =
      ':' :: ':' :: [':'].intercalate [['f', 'f', 'f', 'f'], tail.toList] := by
    simp [String.toList_append, List.intercalate_cons_cons]
  have parts : splitChars ':' ([':'].intercalate [['f', 'f', 'f', 'f'], tail.toList]) =
      [['f', 'f', 'f', 'f'], tail.toList] :=
    splitChars_intercalate (List.forall_mem_cons.mpr ⟨by decide,
      List.forall_mem_singleton.mpr (written ▸ colon_not_mem_dotted _)⟩) (List.cons_ne_nil _ _)
  have first : parseWord? ['f', 'f', 'f', 'f'] = some 0xffff := by decide
  have notWord : parseWord? tail.toList = none := written ▸ parseWord?_dotted _ _ _ _
  have address : parseV4? tail.toList =
      some (v4 (g >>> 8).toUInt8 g.toUInt8 (h >>> 8).toUInt8 h.toUInt8) :=
    parseV4?_eq_some.mpr ⟨_, _, _, _, rfl, congrArg String.toList written.symm⟩
  have back : parseGroup? true ([':'].intercalate [['f', 'f', 'f', 'f'], tail.toList]) =
      some [0xffff, g, h] := by
    rw [parseGroup?, if_neg (by simp [List.intercalate_cons_cons]), parts]
    simp [parseWords?, first, notWord, address, wordOf_wordOctets]
  rw [shape, parseV6?, splitGap?]
  simp only [Option.bind_eq_bind, back, Option.bind_some]
  rfl

/-! ## Characters of addresses -/

/-- Whether a character may be in the text of an address. -/
def IsTextChar (char : Char) : Prop :=
  char = '.' ∨ char = ':' ∨ ∃ place, Octets.hexValue? char = some place

theorem isTextChar_of_isDigit {char : Char} (digit : char.isDigit = true) : IsTextChar char := by
  have decimal : '0' ≤ char ∧ char ≤ '9' := by
    simp only [Char.isDigit, Bool.and_eq_true, decide_eq_true_eq] at digit
    exact digit
  exact Or.inr (Or.inr ⟨_, if_pos decimal⟩)

theorem isTextChar_of_parseV4? {chars : List Char} {address : IpAddress}
    (read : parseV4? chars = some address) : ∀ char ∈ chars, IsTextChar char := by
  rcases parseV4?_eq_some.mp read with ⟨a, b, c, d, _, rfl⟩
  intro char member
  exact (mem_dotted member).elim Or.inl isTextChar_of_isDigit

theorem isTextChar_of_parseWord? {digits : List Char} {word : UInt16}
    (read : parseWord? digits = some word) : ∀ char ∈ digits, IsTextChar char :=
  fun char member => Or.inr (Or.inr (exists_hexValue?_of_parseWord? read char member))

theorem isTextChar_of_parseWords? {last : Bool} {parts : List (List Char)} {words : List UInt16}
    (read : parseWords? last parts = some words) :
    ∀ part ∈ parts, ∀ char ∈ part, IsTextChar char := by
  fun_induction parseWords? last parts generalizing words with
  | case1 => exact nofun
  | case2 part word found =>
      exact List.forall_mem_singleton.mpr (isTextChar_of_parseWord? found)
  | case3 part _ a b c d found =>
      exact List.forall_mem_singleton.mpr (isTextChar_of_parseV4? found)
  | case4 => cases read
  | case5 part parts _ ih =>
      rcases Option.bind_eq_some_iff.mp read with ⟨word, found, read⟩
      rcases Option.bind_eq_some_iff.mp read with ⟨others, later, _⟩
      exact List.forall_mem_cons.mpr ⟨isTextChar_of_parseWord? found, ih later⟩

theorem isTextChar_of_parseGroup? {last : Bool} {chars : List Char} {words : List UInt16}
    (read : parseGroup? last chars = some words) : ∀ char ∈ chars, IsTextChar char := by
  unfold parseGroup? at read
  split at read
  · rename_i empty
    subst empty
    exact nofun
  · intro char member
    rw [← intercalate_splitChars ':' chars] at member
    rcases eq_or_exists_of_mem_intercalate member with same | ⟨part, found, inside⟩
    · exact Or.inr (Or.inl same)
    · exact isTextChar_of_parseWords? read part found char inside

theorem eq_of_splitGap? {chars before after : List Char}
    (found : splitGap? chars = some (before, after)) : chars = before ++ ':' :: ':' :: after := by
  fun_induction splitGap? chars generalizing before with
  | case1 =>
      cases found
      rfl
  | case2 char rest _ ih =>
      rcases Option.map_eq_some_iff.mp found with ⟨⟨front, back⟩, later, same⟩
      cases same
      rw [ih later, List.cons_append]
  | case3 => cases found

theorem isTextChar_of_parseV6? {chars : List Char} {address : IpAddress}
    (read : parseV6? chars = some address) : ∀ char ∈ chars, IsTextChar char := by
  unfold parseV6? at read
  split at read
  · rcases Option.bind_eq_some_iff.mp read with ⟨words, found, _⟩
    exact isTextChar_of_parseGroup? found
  · rename_i before after gap
    rcases Option.bind_eq_some_iff.mp read with ⟨front, frontRead, read⟩
    rcases Option.bind_eq_some_iff.mp read with ⟨back, backRead, _⟩
    intro char member
    rw [eq_of_splitGap? gap, List.mem_append, List.mem_cons, List.mem_cons] at member
    rcases member with inFront | colon | colon | inBack
    · exact isTextChar_of_parseGroup? frontRead char inFront
    · exact Or.inr (Or.inl colon)
    · exact Or.inr (Or.inl colon)
    · exact isTextChar_of_parseGroup? backRead char inBack

/-- There is at most one word more than there are parts. -/
theorem length_le_of_parseWords? {last : Bool} {parts : List (List Char)} {words : List UInt16}
    (read : parseWords? last parts = some words) : words.length ≤ parts.length + 1 := by
  fun_induction parseWords? last parts generalizing words with
  | case1 =>
      cases read
      exact Nat.zero_le _
  | case2 part word found =>
      cases read
      exact Nat.le_succ 1
  | case3 part _ a b c d found =>
      cases read
      exact Nat.le_refl 2
  | case4 => cases read
  | case5 part parts _ ih =>
      rcases Option.bind_eq_some_iff.mp read with ⟨word, found, read⟩
      rcases Option.bind_eq_some_iff.mp read with ⟨others, later, read⟩
      cases read
      exact Nat.succ_le_succ (ih later)

theorem length_of_ofWords? {words : List UInt16} {address : IpAddress}
    (made : ofWords? words = some address) : words.length = 8 := by
  unfold ofWords? at made
  split at made
  · rfl
  · cases made

/-- Every text of an address of version 6 has a colon. -/
theorem colon_mem_of_parseV6? {chars : List Char} {address : IpAddress}
    (read : parseV6? chars = some address) : ':' ∈ chars := by
  by_contra without
  unfold parseV6? at read
  split at read
  · rcases Option.bind_eq_some_iff.mp read with ⟨words, found, made⟩
    have eight := length_of_ofWords? made
    unfold parseGroup? at found
    split at found
    · cases found
      cases eight
    · have alone : splitChars ':' chars = [chars] := by
        have parts := splitChars_intercalate (List.forall_mem_singleton.mpr without)
          (List.cons_ne_nil chars [])
        rwa [List.intercalate_singleton] at parts
      rw [alone] at found
      -- One part is a word or four octets, which are two.
      have few : words.length ≤ 2 := length_le_of_parseWords? found
      omega
  · rename_i before after gap
    rw [eq_of_splitGap? gap] at without
    exact without (List.mem_append_right _ List.mem_cons_self)

/-! ## Addresses -/

theorem parseV4?_of_colon {chars : List Char} (colon : ':' ∈ chars) : parseV4? chars = none := by
  cases read : parseV4? chars with
  | none => rfl
  | some address =>
      rcases parseV4?_eq_some.mp read with ⟨a, b, c, d, _, rfl⟩
      exact absurd colon (colon_not_mem_dotted _)

theorem parse?_eq (text : String) :
    parse? text = (parseV4? text.toList).or (parseV6? text.toList) := by
  rw [parse?, Option.orElse_eq_orElse, Option.orElse_eq_or]

theorem parse?_of_parseV6? {text : String} {address : IpAddress}
    (read : parseV6? text.toList = some address) : parse? text = some address := by
  rw [parse?_eq, parseV4?_of_colon (colon_mem_of_parseV6? read), read, Option.none_or]

theorem isTextChar_of_parse? {text : String} {address : IpAddress}
    (read : parse? text = some address) : ∀ char ∈ text.toList, IsTextChar char := by
  rw [parse?_eq, Option.or_eq_some_iff] at read
  rcases read with four | ⟨_, six⟩
  · exact isTextChar_of_parseV4? four
  · exact isTextChar_of_parseV6? six

/-- No mailbox is the text of an address. -/
theorem parse?_of_at {text : String} (mark : '@' ∈ text.toList) : parse? text = none := by
  cases read : parse? text with
  | none => rfl
  | some address =>
      rcases isTextChar_of_parse? read '@' mark with same | same | ⟨_, found⟩
      · exact absurd same (by decide)
      · exact absurd same (by decide)
      · cases found

/-- The text that is written for an address is read as the address. -/
theorem parse?_toString (address : IpAddress) : parse? address.toString = some address := by
  unfold toString
  split
  · rename_i a b c d
    rw [parse?_eq, parseV4?_eq_some.mpr ⟨a, b, c, d, rfl, rfl⟩, Option.some_or]
  · rename_i g h
    exact parse?_of_parseV6? (parseV6?_mapped g h)
  · exact parse?_of_parseV6? (parseV6?_compressed rfl)

/-- Whether a text is four decimal octets with dots between them. -/
def IsDottedQuad (text : String) : Prop :=
  ∃ a b c d, text = dotted [a, b, c, d]

/-- A text without a colon is one of an address exactly if it is four decimal octets. -/
theorem parse?_eq_none_of_no_colon {text : String} (without : ':' ∉ text.toList) :
    parse? text = none ↔ ¬ IsDottedQuad text := by
  have noWords : parseV6? text.toList = none := by
    cases read : parseV6? text.toList with
    | none => rfl
    | some found => exact absurd (colon_mem_of_parseV6? read) without
  rw [parse?_eq, noWords, Option.or_none, Option.eq_none_iff_forall_ne_some]
  simp only [ne_eq, parseV4?_eq_some, String.toList_inj, IsDottedQuad]
  constructor
  · rintro other ⟨a, b, c, d, same⟩
    exact other _ ⟨a, b, c, d, rfl, same⟩
  · rintro other address ⟨a, b, c, d, _, same⟩
    exact other ⟨a, b, c, d, same⟩

end CertAuthority.IpAddress
