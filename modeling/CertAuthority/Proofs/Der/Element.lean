import CertAuthority.Der.Element
import CertAuthority.Proofs.Octets

/-!
# Reading elements back

A decoder reads octets as a value if it does so whatever follows them
(`Reads`), and it is filled by octets of which it leaves nothing (`Fills`).
Both are promised only up to the largest length that is read, so that the
bound of a whole encoding is the only one that ever has to be known.

The rules below follow the way decoders are put together: an element around
content, one field after another, and fields that may be missing.  The decoder
of each type of element is dealt with by these rules, in the order of its fields.
-/

namespace CertAuthority.Der

variable {α β : Type}

/-- Octets that a decoder reads as a value, whatever follows them. -/
def Reads (decoder : Decoder α) (octets : Octets) (value : α) : Prop :=
  octets.length ≤ maxLength → ∀ rest, decoder (octets ++ rest) = some (value, rest)

/-- Octets that a decoder reads as a value up to their end. -/
def Fills (decoder : Decoder α) (octets : Octets) (value : α) : Prop :=
  octets.length ≤ maxLength → decoder octets = some (value, [])

theorem Reads.fills {decoder : Decoder α} {octets : Octets} {value : α}
    (reads : Reads decoder octets value) : Fills decoder octets value := by
  intro bound
  simpa using reads bound []

theorem Fills.complete {decoder : Decoder α} {octets : Octets} {value : α}
    (fills : Fills decoder octets value) (bound : octets.length ≤ maxLength) :
    Der.complete decoder octets = some value := by
  simp [Der.complete, fills bound]

theorem Reads.complete {decoder : Decoder α} {octets : Octets} {value : α}
    (reads : Reads decoder octets value) (bound : octets.length ≤ maxLength) :
    Der.complete decoder octets = some value :=
  reads.fills.complete bound

/-! ## Lengths and single elements -/

theorem length_ofNat_le_four {length : Nat} (bound : length ≤ maxLength) :
    (Octets.ofNat length).length ≤ 4 := by
  rw [Octets.length_ofNat]
  refine Octets.byteLength_le (Nat.lt_of_le_of_lt bound ?_)
  decide

theorem decodeLength_encodeLength {length : Nat} (bound : length ≤ maxLength) (rest : Octets) :
    decodeLength (encodeLength length ++ rest) = some (length, rest) := by
  by_cases short : length < 128
  · have value : (UInt8.ofNat length).toNat = length := by
      rw [UInt8.toNat_ofNat']
      omega
    have small : UInt8.ofNat length < 0x80 := by
      rw [UInt8.lt_iff_toNat_lt, value]
      exact short
    simp [encodeLength, short, decodeLength, small, value]
  · have few := length_ofNat_le_four bound
    have value : (UInt8.ofNat (0x80 + (Octets.ofNat length).length)).toNat =
        0x80 + (Octets.ofNat length).length := by
      rw [UInt8.toNat_ofNat']
      omega
    have large : ¬ UInt8.ofNat (0x80 + (Octets.ofNat length).length) < 0x80 := by
      rw [UInt8.lt_iff_toNat_lt, value]
      exact Nat.not_lt.mpr (Nat.le_add_right _ _)
    have written : encodeLength length =
        UInt8.ofNat (0x80 + (Octets.ofNat length).length) :: Octets.ofNat length := by
      simp [encodeLength, short]
    rw [written, List.cons_append, decodeLength, if_neg large]
    simp only [value, Nat.add_sub_cancel_left, List.take_left, List.drop_left, Octets.toNat_ofNat]
    rw [if_pos ⟨bound, written.symm⟩]

theorem encode_ne_nil (tag : Tag) (content : Octets) : encode tag content ≠ [] := by
  simp [encode]

@[simp]
theorem head?_encode (tag : Tag) (content rest : Octets) :
    (encode tag content ++ rest).head? = some tag.octet := rfl

/-- What is part of the content of an element is part of the element. -/
theorem infix_encode {tag : Tag} {part content : Octets} (inside : part <:+: content) :
    part <:+: encode tag content :=
  inside.trans ((List.suffix_append _ _).trans (List.suffix_cons _ _)).isInfix

theorem length_content_le (tag : Tag) (content : Octets) :
    content.length ≤ (encode tag content).length :=
  (infix_encode List.infix_rfl).length_le

theorem length_encodeLength_le {length : Nat} (bound : length ≤ maxLength) :
    (encodeLength length).length ≤ 5 := by
  have few := length_ofNat_le_four bound
  unfold encodeLength
  split
  · simp
  · simp only [List.length_cons]
    omega

theorem length_encode_le (tag : Tag) {content : Octets} (bound : content.length ≤ maxLength) :
    (encode tag content).length ≤ content.length + 6 := by
  have prefixed := length_encodeLength_le bound
  simp only [encode, List.length_cons, List.length_append]
  omega

theorem length_encodeLength_mono {shorter longer : Nat} (le : shorter ≤ longer) :
    (encodeLength shorter).length ≤ (encodeLength longer).length := by
  have digits := Octets.byteLength_le (le.trans_lt (Octets.lt_pow_byteLength longer))
  unfold encodeLength
  split_ifs
  · exact Nat.le_refl 1
  · simp
  · omega
  · simpa [Octets.length_ofNat] using digits

/-- An element with no more content has no more octets. -/
theorem length_encode_mono (tag : Tag) {shorter longer : Octets}
    (le : shorter.length ≤ longer.length) :
    (encode tag shorter).length ≤ (encode tag longer).length := by
  have counted := length_encodeLength_mono le
  simp only [encode, List.length_cons, List.length_append]
  omega

theorem Tag.ofOctet?_octet (tag : Tag) : Tag.ofOctet? tag.octet = some tag := by
  simp [Tag.ofOctet?, tag.known]

theorem decodeElement_encode (tag : Tag) {content : Octets} (short : content.length ≤ maxLength)
    (rest : Octets) : decodeElement (encode tag content ++ rest) = some ((tag, content), rest) := by
  have length := decodeLength_encodeLength short (content ++ rest)
  simp [encode, decodeElement, Tag.ofOctet?_octet, length]

theorem reads_element (tag : Tag) (content : Octets) :
    Reads decodeElement (encode tag content) (tag, content) :=
  fun bound => decodeElement_encode tag ((length_content_le tag content).trans bound)

theorem decodeTagged_encode (tag : Tag) {content : Octets} (short : content.length ≤ maxLength)
    (rest : Octets) : decodeTagged tag (encode tag content ++ rest) = some (content, rest) := by
  simp [decodeTagged, decodeElement_encode tag short rest]

theorem reads_tagged (tag : Tag) (content : Octets) :
    Reads (decodeTagged tag) (encode tag content) content :=
  fun bound => decodeTagged_encode tag ((length_content_le tag content).trans bound)

/-- Whatever is read as the length of content that is too long is less than its length. -/
theorem lt_length_of_decodeLength {content body : Octets} {length : Nat}
    (long : maxLength < content.length)
    (read : decodeLength (encodeLength content.length ++ content) = some (length, body)) :
    length < body.length := by
  have many : 128 < content.length := Nat.lt_trans (by decide) long
  have written : encodeLength content.length =
      UInt8.ofNat (0x80 + (Octets.ofNat content.length).length) :: Octets.ofNat content.length := by
    simp [encodeLength, many.not_gt]
  have first : (UInt8.ofNat (0x80 + (Octets.ofNat content.length).length)).toNat =
      (0x80 + (Octets.ofNat content.length).length) % 256 := UInt8.toNat_ofNat'
  rw [written, List.cons_append, decodeLength] at read
  split at read
  · rename_i clear
    rw [UInt8.lt_iff_toNat_lt] at clear
    cases read
    rw [List.length_append]
    exact (clear.trans many).trans_le (Nat.le_add_left _ _)
  · simp only [Option.ite_none_right_eq_some, Option.some.injEq, Prod.mk.injEq] at read
    rcases read with ⟨⟨short, _⟩, rfl, rfl⟩
    rw [first] at short
    rw [List.length_drop, List.length_append, first]
    by_cases few : (Octets.ofNat content.length).length < 128
    · have counted : (0x80 + (Octets.ofNat content.length).length) % 256 - 0x80 =
          (Octets.ofNat content.length).length := by omega
      rw [counted, List.take_left, Octets.toNat_ofNat] at short
      exact absurd short long.not_ge
    · omega

/-- An element whose content is too long is not read to its end. -/
theorem decodeElement_encode_of_long {tag : Tag} {content rest : Octets} {found : Tag × Octets}
    (long : maxLength < content.length)
    (read : decodeElement (encode tag content) = some (found, rest)) : rest ≠ [] := by
  simp only [encode, decodeElement, Tag.ofOctet?_octet, Option.bind_eq_bind, Option.bind_some,
    Option.bind_eq_some_iff] at read
  rcases read with ⟨⟨length, body⟩, lengthRead, read⟩
  have below := lt_length_of_decodeLength long lengthRead
  simp only [below.not_gt, if_false, Option.some.injEq, Prod.mk.injEq] at read
  rw [← read.2, ne_eq, List.drop_eq_nil_iff]
  exact below.not_ge

theorem reads_any (any : Any) : Reads Any.decode any.encode any := by
  intro bound rest
  have element : decodeElement (any.encode ++ rest) = some ((any.tag, any.content), rest) :=
    reads_element any.tag any.content bound rest
  simp [Any.decode, element]

/-- An element is read as the value that fills its content. -/
theorem Fills.nested {tag : Tag} {decoder : Decoder α} {content : Octets} {value : α}
    (fills : Fills decoder content value) :
    Reads (decodeNested tag decoder) (encode tag content) value := by
  intro bound rest
  have short := Nat.le_trans (length_content_le tag content) bound
  simp [decodeNested, reads_tagged tag content bound rest, fills.complete short]

theorem complete_eq_some {decoder : Decoder α} {octets : Octets} {value : α} :
    Der.complete decoder octets = some value ↔ decoder octets = some (value, []) := by
  unfold Der.complete
  split
  · rename_i found read
    simp [read]
  · rename_i other
    exact ⟨nofun, fun read => absurd read (other value)⟩

/-- An element is read to its end if its content is, and is not too long. -/
theorem complete_decodeNested_encode {tag : Tag} {decoder : Decoder α} {content : Octets}
    {value : α} : Der.complete (decodeNested tag decoder) (encode tag content) = some value ↔
      content.length ≤ maxLength ∧ Der.complete decoder content = some value := by
  rw [complete_eq_some, decodeNested, decodeTagged]
  by_cases short : content.length ≤ maxLength
  · have element := decodeElement_encode tag short []
    rw [List.append_nil] at element
    simp [element, short, Option.bind_eq_some_iff]
  · cases element : decodeElement (encode tag content) with
    | none => simp [short]
    | some pair =>
        rcases pair with ⟨⟨other, part⟩, rest⟩
        have more := decodeElement_encode_of_long (Nat.lt_of_not_le short) element
        by_cases same : other = tag
        · simp [same, more, short, Option.bind_eq_some_iff]
        · simp [same, short]

/-- Nothing stands behind an element in its own octets, so that it makes no difference whether what
does would be passed over. -/
theorem map_decodeNested_encode {tag : Tag} {decoder : Decoder α} {content : Octets}
    (short : (encode tag content).length ≤ maxLength) :
    (decodeNested tag decoder (encode tag content)).map Prod.fst =
      Der.complete (decodeNested tag decoder) (encode tag content) := by
  have element := reads_tagged tag content short []
  rw [List.append_nil] at element
  have nested : decodeNested tag decoder (encode tag content) =
      (Der.complete decoder content).map fun value => (value, []) := by
    cases whole : Der.complete decoder content <;> simp [decodeNested, element, whole]
  generalize Der.complete decoder content = found at nested
  rw [Der.complete, nested]
  cases found <;> rfl

/-! ## One after another -/

theorem Reads.map {decoder : Decoder α} {next : α × Octets → Option (β × Octets)}
    {octets : Octets} {value : α} {result : β} (reads : Reads decoder octets value)
    (final : ∀ rest, next (value, rest) = some (result, rest)) :
    Reads (fun octets => decoder octets >>= next) octets result := by
  intro bound rest
  simp [reads bound rest, final]

theorem Reads.bind {first : Decoder α} {next : α × Octets → Option (β × Octets)}
    {left right : Octets} {value : α} {result : β} (reads : Reads first left value)
    (fills : Fills (fun octets => next (value, octets)) right result) :
    Fills (fun octets => first octets >>= next) (left ++ right) result := by
  intro bound
  rw [List.length_append] at bound
  have leftRead := reads (by omega) right
  have rightRead := fills (by omega)
  simpa [leftRead] using rightRead

theorem Reads.last {decoder : Decoder α} {next : α × Octets → Option (β × Octets)}
    {octets : Octets} {value : α} {result : β} (reads : Reads decoder octets value)
    (final : next (value, []) = some (result, [])) :
    Fills (fun octets => decoder octets >>= next) octets result := by
  intro bound
  have whole := reads bound []
  rw [List.append_nil] at whole
  simp [whole, final]

/-! ## Fields that may be missing -/

theorem Reads.optional {tag : Tag} {decoder : Decoder α} {content : Octets} {value : α}
    (reads : Reads decoder (encode tag content) value) :
    Reads (decodeOptional tag decoder) (encode tag content) (some value) := by
  intro bound rest
  have found := reads bound rest
  rw [encode, List.cons_append] at found ⊢
  generalize encodeLength content.length ++ content ++ rest = after at found ⊢
  simp [decodeOptional, found]

theorem decodeOptional_absent {tag : Tag} {decoder : Decoder α} {octets : Octets}
    (absent : octets.head? ≠ some tag.octet) :
    decodeOptional tag decoder octets = some (none, octets) := by
  cases octets with
  | nil => rfl
  | cons octet rest =>
      have different : octet ≠ tag.octet := fun equal => absent (by rw [List.head?_cons, equal])
      simp [decodeOptional, different]

/-- Whether octets do not begin with a field of the given number or a smaller one. -/
def IsBeyond (number : Nat) (octets : Octets) : Prop :=
  ∀ octet, octets.head? = some octet → ∀ found, Tag.contextNumber? octet = some found →
    number < found

theorem isBeyond_nil (number : Nat) : IsBeyond number [] := by
  intro octet head
  cases head

theorem isBeyond_encode {number : Nat} {tag : Tag} {content rest : Octets}
    (later : ∀ found, Tag.contextNumber? tag.octet = some found → number < found) :
    IsBeyond number (encode tag content ++ rest) := by
  intro octet head found
  rw [head?_encode] at head
  rw [← Option.some.inj head]
  exact later found

theorem contextNumber?_field {number : Nat} (small : number < 31) :
    Tag.contextNumber? (Tag.field number).octet = some number := by
  have every : ∀ small < 31, Tag.contextNumber? (Tag.field small).octet = some small := by decide
  exact every number small

theorem contextNumber?_constructedField {number : Nat} (small : number < 31) :
    Tag.contextNumber? (Tag.constructedField number).octet = some number := by
  have every : ∀ small < 31,
      Tag.contextNumber? (Tag.constructedField small).octet = some small := by decide
  exact every number small

theorem decodeField_absent {number : Nat} {decoder : Decoder α} {octets : Octets}
    (beyond : IsBeyond number octets) :
    decodeField number decoder octets = some (none, octets) := by
  cases octets with
  | nil => rfl
  | cons octet rest =>
      have later := beyond octet rfl
      cases found : Tag.contextNumber? octet with
      | none => simp [decodeField, decodeFieldAfter, found]
      | some other => simp [decodeField, decodeFieldAfter, found, later other found]

/-- What comes next is read if a decoder does not find its value and takes nothing. -/
theorem Fills.absent {first : Decoder (Option α)}
    {next : Option α × Octets → Option (β × Octets)} {octets : Octets} {result : β}
    (missing : first octets = some (none, octets))
    (fills : Fills (fun octets => next (none, octets)) octets result) :
    Fills (fun octets => first octets >>= next) octets result := by
  intro bound
  have rest := fills bound
  simpa [missing] using rest

/-- A field that is missing is passed over if what follows is not a field before it. -/
theorem Fills.skip {number : Nat} {decoder : Decoder α}
    {next : Option α × Octets → Option (β × Octets)} {octets : Octets} {result : β}
    (beyond : IsBeyond number octets)
    (fills : Fills (fun octets => next (none, octets)) octets result) :
    Fills (fun octets => decodeField number decoder octets >>= next) octets result :=
  fills.absent (decodeField_absent beyond)

/-- An optional element is passed over if the next one is of another type. -/
theorem Fills.skipOptional {tag : Tag} {decoder : Decoder α}
    {next : Option α × Octets → Option (β × Octets)} {octets : Octets} {result : β}
    (absent : octets.head? ≠ some tag.octet)
    (fills : Fills (fun octets => next (none, octets)) octets result) :
    Fills (fun octets => decodeOptional tag decoder octets >>= next) octets result :=
  fills.absent (decodeOptional_absent absent)

/-! ## Lists -/

/-- Reads a value that is made of the one another decoder reads. -/
def decodeMade (decoder : Decoder α) (make : α → Option β) : Decoder β := fun octets => do
  let (value, rest) ← decoder octets
  let made ← make value
  return (made, rest)

theorem complete_decodeMade (decoder : Decoder α) (make : α → Option β) (octets : Octets) :
    Der.complete (decodeMade decoder make) octets =
      (Der.complete decoder octets).bind make := by
  cases read : decoder octets with
  | none => simp [Der.complete, decodeMade, read]
  | some pair =>
      rcases pair with ⟨value, _ | ⟨octet, rest⟩⟩ <;> cases made : make value <;>
        simp [Der.complete, decodeMade, read, made]

theorem decodeRepeated_made (decoder : Decoder α) (make : α → Option β) (count : Nat)
    (octets : Octets) :
    decodeRepeated (decodeMade decoder make) count octets =
      (decodeRepeated decoder count octets).bind (List.mapM make) := by
  induction count generalizing octets with
  | zero => cases octets <;> rfl
  | succ count ih =>
      cases octets with
      | nil => rfl
      | cons octet octets =>
          cases first : decoder (octet :: octets) with
          | none => simp [decodeRepeated, decodeMade, first]
          | some read =>
              rcases read with ⟨value, rest⟩
              cases others : decodeRepeated decoder count rest <;> cases made : make value <;>
                simp [decodeRepeated, decodeMade, first, made, ih, others]

/-- Whether values are made one by one or after the last was read is the same. -/
theorem decodeList_made (tag : Tag) (decoder : Decoder α) (make : α → Option β)
    (octets : Octets) :
    decodeList tag (decodeMade decoder make) octets =
      decodeMade (decodeList tag decoder) (List.mapM make) octets := by
  cases element : decodeTagged tag octets with
  | none => simp [decodeList, decodeMade, element]
  | some read =>
      rcases read with ⟨content, rest⟩
      cases all : decodeRepeated decoder content.length content <;>
        simp [decodeList, decodeAll, decodeRepeated_made, decodeMade, element, all]

end CertAuthority.Der
