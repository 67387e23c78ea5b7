import CertAuthority.Proofs.Der.Value

/-!
# Reading written forms only

A decoder is exact if the octets that it reads as a value are the ones that are
written for the value (`Exact`).  That is the converse of reading back: nothing
but the written form is read, so that reading loses nothing.

Elements, numbers, strings and identifiers have exact decoders, since every
length and every number has one form; and decoders that are put together of
exact ones are exact.  A field that may be missing is read exactly as long as
no other field is passed over on the way to it (`decodeNextField`).
-/

namespace CertAuthority.Der

variable {α β : Type}

/-- A decoder reads a value only from the octets that are written for it. -/
def Exact (decoder : Decoder α) (written : α → Octets) : Prop :=
  ∀ octets value rest, decoder octets = some (value, rest) → octets = written value ++ rest

theorem Exact.of_complete {decoder : Decoder α} {written : α → Octets} {octets : Octets}
    {value : α} (exact : Exact decoder written)
    (read : Der.complete decoder octets = some value) : octets = written value := by
  have consumed := exact octets value [] (complete_eq_some.mp read)
  rwa [List.append_nil] at consumed

/-! ## Elements -/

theorem exact_length : Exact decodeLength encodeLength := by
  intro octets length rest read
  cases octets with
  | nil => cases read
  | cons first octets =>
      rw [decodeLength] at read
      split at read
      · rename_i short
        cases read
        have small : first.toNat < 128 := UInt8.lt_iff_toNat_lt.mp short
        simp [encodeLength, small]
      · simp only [Option.ite_none_right_eq_some, Option.some.injEq, Prod.mk.injEq] at read
        rcases read with ⟨⟨_, written⟩, rfl, rfl⟩
        rw [← written, List.cons_append, List.take_append_drop]

/-- No length above the largest one is read. -/
theorem le_maxLength_of_decodeLength {octets rest : Octets} {length : Nat}
    (read : decodeLength octets = some (length, rest)) : length ≤ maxLength := by
  cases octets with
  | nil => cases read
  | cons first octets =>
      rw [decodeLength] at read
      split at read
      · cases read
        exact first.toNat_lt.le.trans (by decide)
      · simp only [Option.ite_none_right_eq_some, Option.some.injEq, Prod.mk.injEq] at read
        rcases read with ⟨⟨short, _⟩, rfl, _⟩
        exact short

theorem decodeElement_eq_some {octets content rest : Octets} {tag : Tag}
    (read : decodeElement octets = some ((tag, content), rest)) :
    octets = encode tag content ++ rest ∧ content.length ≤ maxLength := by
  cases octets with
  | nil => cases read
  | cons octet octets =>
      rcases Option.bind_eq_some_iff.mp read with ⟨found, known, read⟩
      rcases Option.bind_eq_some_iff.mp read with ⟨⟨length, body⟩, lengthRead, read⟩
      simp only [Option.ite_none_left_eq_some, Nat.not_lt, Option.some.injEq, Prod.mk.injEq]
        at read
      rcases read with ⟨enough, ⟨rfl, rfl⟩, rfl⟩
      have full : (body.take length).length = length := List.length_take_of_le enough
      have same : found.octet = octet := by
        unfold Tag.ofOctet? at known
        split at known
        · rw [← Option.some.inj known]
        · cases known
      refine ⟨?_, full.le.trans (le_maxLength_of_decodeLength lengthRead)⟩
      rw [exact_length _ _ _ lengthRead, encode, full, same, List.cons_append, List.append_assoc,
        List.take_append_drop]

theorem decodeTagged_eq_some {octets content rest : Octets} {tag : Tag}
    (read : decodeTagged tag octets = some (content, rest)) :
    octets = encode tag content ++ rest ∧ content.length ≤ maxLength := by
  rcases Option.bind_eq_some_iff.mp read with ⟨⟨⟨found, body⟩, after⟩, element, read⟩
  simp only [Option.ite_none_right_eq_some, Option.some.injEq, Prod.mk.injEq] at read
  rcases read with ⟨rfl, rfl, rfl⟩
  exact decodeElement_eq_some element

theorem exact_tagged (tag : Tag) : Exact (decodeTagged tag) (encode tag) :=
  fun _ _ _ read => (decodeTagged_eq_some read).1

theorem exact_any : Exact Any.decode Any.encode := by
  intro octets any rest read
  rcases Option.bind_eq_some_iff.mp read with ⟨⟨⟨tag, content⟩, after⟩, element, read⟩
  cases read
  exact (decodeElement_eq_some element).1

/-- A value that is made of the content of an element is read exactly if the content is what is
written for the value. -/
theorem Exact.of_content {tag : Tag} {ofContent : Octets → Option α} {content : α → Octets}
    (restores : ∀ octets value, ofContent octets = some value → octets = content value) :
    Exact (fun octets => do
      let (body, rest) ← decodeTagged tag octets
      let value ← ofContent body
      return (value, rest)) fun value => encode tag (content value) := by
  intro octets value rest read
  rcases Option.bind_eq_some_iff.mp read with ⟨⟨body, after⟩, element, read⟩
  rcases Option.bind_eq_some_iff.mp read with ⟨found, made, read⟩
  cases read
  show octets = encode tag (content value) ++ rest
  rw [← restores body value made]
  exact exact_tagged tag _ _ _ element

theorem Exact.nested {tag : Tag} {decoder : Decoder α} {written : α → Octets}
    (exact : Exact decoder written) :
    Exact (decodeNested tag decoder) fun value => encode tag (written value) :=
  Exact.of_content fun _ _ read => exact.of_complete read

/-! ## Lists -/

theorem Exact.repeated {decoder : Decoder α} {written : α → Octets}
    (exact : Exact decoder written) {count : Nat} {octets : Octets} {values : List α}
    (read : decodeRepeated decoder count octets = some values) :
    octets = values.flatMap written := by
  induction count generalizing octets values with
  | zero =>
      cases octets with
      | nil =>
          cases read
          rfl
      | cons octet octets => cases read
  | succ count ih =>
      cases octets with
      | nil =>
          cases read
          rfl
      | cons octet octets =>
          rcases Option.bind_eq_some_iff.mp read with ⟨⟨head, after⟩, first, read⟩
          rcases Option.bind_eq_some_iff.mp read with ⟨tail, others, read⟩
          cases read
          rw [exact _ _ _ first, ih others, List.flatMap_cons]

theorem Exact.list {tag : Tag} {decoder : Decoder α} {written : α → Octets}
    (exact : Exact decoder written) :
    Exact (decodeList tag decoder) fun values => encode tag (values.flatMap written) :=
  Exact.of_content fun _ _ read => exact.repeated read

/-- What is written for the values of a list that was read is not too long. -/
theorem Exact.length_flatMap_le {tag : Tag} {decoder : Decoder α} {written : α → Octets}
    (exact : Exact decoder written) {octets rest : Octets} {values : List α}
    (read : decodeList tag decoder octets = some (values, rest)) :
    (values.flatMap written).length ≤ maxLength := by
  rcases Option.bind_eq_some_iff.mp read with ⟨⟨content, after⟩, element, read⟩
  rcases Option.bind_eq_some_iff.mp read with ⟨found, all, read⟩
  cases read
  rw [← exact.repeated all]
  exact (decodeTagged_eq_some element).2

/-! ## What was read -/

theorem decodeNested_eq_some {tag : Tag} {decoder : Decoder α} {octets rest : Octets} {value : α}
    (read : decodeNested tag decoder octets = some (value, rest)) :
    ∃ content, octets = encode tag content ++ rest ∧ content.length ≤ maxLength ∧
      decoder content = some (value, []) := by
  rcases Option.bind_eq_some_iff.mp read with ⟨⟨content, after⟩, element, read⟩
  rcases Option.bind_eq_some_iff.mp read with ⟨found, whole, read⟩
  cases read
  rcases decodeTagged_eq_some element with ⟨shape, short⟩
  exact ⟨content, shape, short, complete_eq_some.mp whole⟩

theorem head?_of_decodeTagged {tag : Tag} {octets content rest : Octets}
    (read : decodeTagged tag octets = some (content, rest)) : octets.head? = some tag.octet := by
  rw [(decodeTagged_eq_some read).1, head?_encode]

/-- The content of an element is what its decoder reads to the end. -/
theorem exists_content_of_complete {tag : Tag} {decoder : Decoder α} {octets : Octets} {value : α}
    (read : Der.complete (decodeNested tag decoder) octets = some value) :
    ∃ content, Der.complete (decodeTagged tag) octets = some content ∧
      decoder content = some (value, []) := by
  rcases Option.bind_eq_some_iff.mp (complete_eq_some.mp read) with ⟨⟨content, rest⟩, element, read⟩
  rcases Option.bind_eq_some_iff.mp read with ⟨found, whole, read⟩
  cases read
  exact ⟨content, complete_eq_some.mpr element, complete_eq_some.mp whole⟩

theorem decodeRepeated_eq_cons {decoder : Decoder α} {count : Nat} {octets : Octets} {value : α}
    {values : List α} (read : decodeRepeated decoder count octets = some (value :: values)) :
    ∃ rest fewer, decoder octets = some (value, rest) ∧
      decodeRepeated decoder fewer rest = some values := by
  cases octets with
  | nil => cases count <;> cases read
  | cons octet octets =>
      cases count with
      | zero => cases read
      | succ count =>
          rcases Option.bind_eq_some_iff.mp read with ⟨⟨head, rest⟩, first, read⟩
          rcases Option.bind_eq_some_iff.mp read with ⟨tail, others, read⟩
          cases read
          exact ⟨rest, count, first, others⟩

/-- What all values have in common that a decoder reads, the values of a list have. -/
theorem forall_of_decodeRepeated {decoder : Decoder α} {property : α → Prop}
    (each : ∀ octets value rest, decoder octets = some (value, rest) → property value)
    {count : Nat} {octets : Octets} {values : List α}
    (read : decodeRepeated decoder count octets = some values) :
    ∀ value ∈ values, property value := by
  induction count generalizing octets values with
  | zero =>
      cases octets with
      | nil =>
          cases read
          exact List.forall_mem_nil _
      | cons octet octets => cases read
  | succ count ih =>
      cases octets with
      | nil =>
          cases read
          exact List.forall_mem_nil _
      | cons octet octets =>
          rcases Option.bind_eq_some_iff.mp read with ⟨⟨head, after⟩, first, read⟩
          rcases Option.bind_eq_some_iff.mp read with ⟨tail, others, read⟩
          cases read
          exact List.forall_mem_cons.mpr ⟨each _ _ _ first, ih others⟩

theorem forall_of_decodeList {tag : Tag} {decoder : Decoder α} {property : α → Prop}
    (each : ∀ octets value rest, decoder octets = some (value, rest) → property value)
    {octets rest : Octets} {values : List α}
    (read : decodeList tag decoder octets = some (values, rest)) :
    ∀ value ∈ values, property value := by
  rcases Option.bind_eq_some_iff.mp read with ⟨⟨content, after⟩, _, read⟩
  rcases Option.bind_eq_some_iff.mp read with ⟨found, all, read⟩
  cases read
  exact forall_of_decodeRepeated each all

/-! ## Fields that may be missing -/

/-- The value of a field was read by the decoder of the field, from the end of the octets. -/
theorem exists_of_decodeFieldAfter {number count : Nat} {decoder : Decoder α}
    {octets rest : Octets} {value : α}
    (read : decodeFieldAfter number decoder count octets = some (some value, rest)) :
    ∃ start, start <:+ octets ∧ decoder start = some (value, rest) := by
  induction count generalizing octets with
  | zero => cases octets <;> cases read
  | succ count ih =>
      cases octets with
      | nil => cases read
      | cons octet octets =>
          rw [decodeFieldAfter] at read
          split at read
          · cases read
          · split at read
            · cases read
            · split at read
              · rcases Option.bind_eq_some_iff.mp read with ⟨⟨found, after⟩, first, read⟩
                cases read
                exact ⟨_, List.suffix_refl _, first⟩
              · rcases Option.bind_eq_some_iff.mp read with ⟨⟨⟨tag, content⟩, after⟩, element, read⟩
                rcases ih read with ⟨start, ending, first⟩
                have passed : after <:+ octet :: octets :=
                  ⟨encode tag content, (decodeElement_eq_some element).1.symm⟩
                exact ⟨start, ending.trans passed, first⟩

/-- Reads the context-specific field `number` if it is the next element. -/
def decodeNextField (number : Nat) (decoder : Decoder α) : Decoder (Option α)
  | [] => some (none, [])
  | octet :: rest =>
      if Tag.contextNumber? octet = some number then do
        let (value, after) ← decoder (octet :: rest)
        return (some value, after)
      else some (none, octet :: rest)

theorem decodeNextField_cons {number : Nat} {decoder : Decoder α} {octet : UInt8}
    {octets : Octets} (numbered : Tag.contextNumber? octet = some number) :
    decodeNextField number decoder (octet :: octets) =
      (decoder (octet :: octets)).map fun read => (some read.1, read.2) := by
  rw [decodeNextField, if_pos numbered]
  cases decoder (octet :: octets) <;> rfl

theorem exists_of_decodeNextField {number : Nat} {decoder : Decoder α} {octets rest : Octets}
    {value : α} (read : decodeNextField number decoder octets = some (some value, rest)) :
    ∃ start, decoder start = some (value, rest) := by
  cases octets with
  | nil => cases read
  | cons octet octets =>
      rw [decodeNextField] at read
      split at read
      · rcases Option.bind_eq_some_iff.mp read with ⟨⟨found, after⟩, first, read⟩
        cases read
        exact ⟨_, first⟩
      · cases read

theorem decodeNextField_absent {number : Nat} {decoder : Decoder α} {octets : Octets}
    (beyond : IsBeyond number octets) :
    decodeNextField number decoder octets = some (none, octets) := by
  cases octets with
  | nil => rfl
  | cons octet octets =>
      exact if_neg fun numbered => absurd (beyond octet rfl number numbered) (Nat.lt_irrefl _)

theorem ReadsIf.nextField {condition : Prop} {number : Nat} {tag : Tag} {decoder : Decoder α}
    {content : Octets} {value : α} (numbered : Tag.contextNumber? tag.octet = some number)
    (readsIf : ReadsIf condition decoder (encode tag content) value) :
    ReadsIf condition (decodeNextField number decoder) (encode tag content) (some value) := by
  intro bound rest result
  have found := readsIf bound rest
  rw [encode, List.cons_append] at found ⊢
  simp only [decodeNextField_cons numbered, Option.map_eq_some_iff, found, and_assoc,
    exists_and_left, exists_eq_left]
  exact and_congr_right fun _ => eq_comm

/-- What is written for a value that may be missing. -/
def optionalOctets (written : α → Octets) (value : Option α) : Octets :=
  (value.map written).getD []

theorem Exact.nextField {number : Nat} {decoder : Decoder α} {written : α → Octets}
    (exact : Exact decoder written) :
    Exact (decodeNextField number decoder) (optionalOctets written) := by
  intro octets value rest read
  cases octets with
  | nil =>
      cases read
      rfl
  | cons octet octets =>
      rw [decodeNextField] at read
      split at read
      · rcases Option.bind_eq_some_iff.mp read with ⟨⟨found, after⟩, first, read⟩
        cases read
        exact exact _ _ _ first
      · cases read
        rfl

/-- Nothing is passed over on the way to the first field. -/
theorem Exact.firstField {decoder : Decoder α} {written : α → Octets}
    (exact : Exact decoder written) :
    Exact (decodeField 0 decoder) (optionalOctets written) := by
  intro octets value rest read
  cases octets with
  | nil =>
      cases read
      rfl
  | cons octet octets =>
      rw [decodeField, List.length_cons, decodeFieldAfter] at read
      split at read
      · cases read
        rfl
      · split at read
        · cases read
          rfl
        · rename_i numbered
          rw [if_pos (Nat.eq_zero_of_not_pos numbered)] at read
          rcases Option.bind_eq_some_iff.mp read with ⟨⟨found, after⟩, first, read⟩
          cases read
          exact exact _ _ _ first

theorem Exact.optional {tag : Tag} {decoder : Decoder α} {written : α → Octets}
    (exact : Exact decoder written) :
    Exact (decodeOptional tag decoder) (optionalOctets written) := by
  intro octets value rest read
  cases octets with
  | nil =>
      cases read
      rfl
  | cons octet octets =>
      rw [decodeOptional] at read
      split at read
      · rcases Option.bind_eq_some_iff.mp read with ⟨⟨found, after⟩, first, read⟩
        cases read
        exact exact _ _ _ first
      · cases read
        rfl

/-! ## Some values only -/

/-- Reads a value that has a property. -/
def decodeOnly (decoder : Decoder α) (property : α → Bool) : Decoder α := fun octets => do
  let (value, rest) ← decoder octets
  if property value then some (value, rest) else none

theorem decodeOnly_eq_some {decoder : Decoder α} {property : α → Bool} {octets rest : Octets}
    {value : α} : decodeOnly decoder property octets = some (value, rest) ↔
      decoder octets = some (value, rest) ∧ property value = true := by
  cases found : decoder octets with
  | none => simp [decodeOnly, found]
  | some pair =>
      rcases pair with ⟨other, after⟩
      simp only [decodeOnly, found, Option.bind_eq_bind, Option.bind_some,
        Option.ite_none_right_eq_some, Option.some.injEq, Prod.mk.injEq]
      constructor
      · rintro ⟨holds, rfl, rfl⟩
        exact ⟨⟨rfl, rfl⟩, holds⟩
      · rintro ⟨⟨rfl, rfl⟩, holds⟩
        exact ⟨holds, rfl, rfl⟩

theorem Reads.only {decoder : Decoder α} {property : α → Bool} {octets : Octets} {value : α}
    (reads : Reads decoder octets value) (holds : property value = true) :
    Reads (decodeOnly decoder property) octets value :=
  fun bound rest => decodeOnly_eq_some.mpr ⟨reads bound rest, holds⟩

/-! ## Values -/

theorem exact_boolean : Exact decodeBoolean encodeBoolean := by
  intro octets value rest read
  rcases Option.bind_eq_some_iff.mp read with ⟨⟨content, after⟩, element, read⟩
  have whole := exact_tagged Tag.boolean _ _ _ element
  dsimp only at read
  split at read
  · cases read
    exact whole
  · cases read
    exact whole
  · cases read

theorem exact_octetString : Exact decodeOctetString encodeOctetString :=
  exact_tagged Tag.octetString

theorem exact_unsigned : Exact decodeUnsigned encodeUnsigned := by
  refine Exact.of_content fun octets value made => ?_
  simp only [unsignedOfContent?, Option.ite_none_right_eq_some, Option.some.injEq] at made
  rcases made with ⟨written, rfl⟩
  exact written.symm

theorem Oid.ofContent?_eq_some {content : Octets} {oid : Oid}
    (made : ofContent? content = some oid) : content = oid.content ∧ oid.isReadable = true := by
  unfold ofContent? at made
  split at made
  · simp only [Option.ite_none_right_eq_some, Option.some.injEq] at made
    rcases made with ⟨readable, rfl⟩
    exact ⟨rfl, readable⟩
  · cases made

theorem exact_oid : Exact Oid.decode Oid.encode :=
  Exact.of_content fun _ _ made => (Oid.ofContent?_eq_some made).1

/-- An identifier that was read is one that can be read. -/
theorem Oid.isReadable_of_decode {octets rest : Octets} {oid : Oid}
    (read : decode octets = some (oid, rest)) : oid.isReadable = true := by
  rcases Option.bind_eq_some_iff.mp read with ⟨⟨content, after⟩, _, read⟩
  rcases Option.bind_eq_some_iff.mp read with ⟨found, made, read⟩
  cases read
  exact (ofContent?_eq_some made).2

namespace BitString

theorem content_of_ofContent? {content : Octets} {bits : BitString}
    (made : ofContent? content = some bits) : content = bits.content := by
  cases content with
  | nil => cases made
  | cons unused octets =>
      simp only [ofContent?, Option.dite_none_right_eq_some, Option.some.injEq] at made
      rcases made with ⟨fitting, rfl⟩
      simp [content]

theorem exact_as (tag : Tag) : Exact (decodeAs tag) fun bits => Der.encode tag bits.content :=
  Exact.of_content fun _ _ made => content_of_ofContent? made

theorem exact : Exact decode encode :=
  exact_as Tag.bitString

end BitString

end CertAuthority.Der
