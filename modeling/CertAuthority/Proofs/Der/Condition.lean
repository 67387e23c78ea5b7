import CertAuthority.Proofs.Der.Element

/-!
# Reading back under a condition

What is written for a value need not be read again: a part of the value may be
one that is written but not read.  Its octets are read exactly if each part is
one that is read, and in no case are they read as another value (`ReadsIf`).

The rules follow those for values that are always read back (`Reads`), and
collect the conditions of the parts.  For lists they are proved here for both.
-/

namespace CertAuthority.Der

variable {α β : Type} {condition further : Prop}

/-- Octets that a decoder reads as a value, whatever follows them, if a condition holds, and does
not read otherwise. -/
def ReadsIf (condition : Prop) (decoder : Decoder α) (octets : Octets) (value : α) : Prop :=
  octets.length ≤ maxLength → ∀ rest result,
    decoder (octets ++ rest) = some result ↔ condition ∧ result = (value, rest)

/-- Octets that a decoder reads as a value up to their end if a condition holds, and does not read
otherwise. -/
def FillsIf (condition : Prop) (decoder : Decoder α) (octets : Octets) (value : α) : Prop :=
  octets.length ≤ maxLength → ∀ result,
    decoder octets = some result ↔ condition ∧ result = (value, [])

section

variable {decoder : Decoder α} {octets : Octets} {value : α}

theorem ReadsIf.reads (readsIf : ReadsIf condition decoder octets value) (holds : condition) :
    Reads decoder octets value :=
  fun bound rest => (readsIf bound rest _).mpr ⟨holds, rfl⟩

theorem FillsIf.fills (fillsIf : FillsIf condition decoder octets value) (holds : condition) :
    Fills decoder octets value :=
  fun bound => (fillsIf bound _).mpr ⟨holds, rfl⟩

theorem Reads.readsIf (reads : Reads decoder octets value) :
    ReadsIf True decoder octets value := by
  intro bound rest result
  rw [reads bound rest, Option.some.injEq, eq_comm, true_and]

theorem Fills.fillsIf (fills : Fills decoder octets value) :
    FillsIf True decoder octets value := by
  intro bound result
  rw [fills bound, Option.some.injEq, eq_comm, true_and]

theorem FillsIf.congr (same : condition ↔ further)
    (fillsIf : FillsIf condition decoder octets value) : FillsIf further decoder octets value := by
  rwa [← propext same]

theorem ReadsIf.fillsIf (readsIf : ReadsIf condition decoder octets value) :
    FillsIf condition decoder octets value := by
  intro bound result
  simpa using readsIf bound [] result

theorem FillsIf.complete (fillsIf : FillsIf condition decoder octets value)
    (bound : octets.length ≤ maxLength) {found : α} :
    Der.complete decoder octets = some found ↔ condition ∧ found = value := by
  rw [complete_eq_some, fillsIf bound]
  simp

/-- Octets are a value and nothing else exactly if the condition holds. -/
theorem FillsIf.complete_eq [Decidable condition] (fillsIf : FillsIf condition decoder octets value)
    (bound : octets.length ≤ maxLength) :
    Der.complete decoder octets = if condition then some value else none := by
  ext found
  rw [fillsIf.complete bound]
  split <;> simp_all [eq_comm]

/-- An element is read as the value of its content if the content is. -/
theorem FillsIf.nested {tag : Tag} (fillsIf : FillsIf condition decoder octets value) :
    ReadsIf condition (decodeNested tag decoder) (encode tag octets) value := by
  intro bound rest result
  have short := Nat.le_trans (length_content_le tag octets) bound
  simp only [decodeNested, reads_tagged tag octets bound rest, Option.bind_eq_bind,
    Option.bind_some, Option.bind_eq_some_iff, fillsIf.complete short, and_assoc,
    exists_and_left, exists_eq_left, pure, Option.some.injEq]
  exact and_congr_right fun _ => eq_comm

/-! ## One after another -/

theorem ReadsIf.map {next : α × Octets → Option (β × Octets)} {result : β}
    (readsIf : ReadsIf condition decoder octets value)
    (final : ∀ rest, next (value, rest) = some (result, rest)) :
    ReadsIf condition (fun octets => decoder octets >>= next) octets result := by
  intro bound rest found
  simp only [Option.bind_eq_bind, Option.bind_eq_some_iff, readsIf bound rest, and_assoc,
    exists_and_left, exists_eq_left, final, Option.some.injEq]
  exact and_congr_right fun _ => eq_comm

theorem ReadsIf.last {next : α × Octets → Option (β × Octets)} {result : β}
    (readsIf : ReadsIf condition decoder octets value)
    (final : next (value, []) = some (result, [])) :
    FillsIf condition (fun octets => decoder octets >>= next) octets result := by
  intro bound found
  simp only [Option.bind_eq_bind, Option.bind_eq_some_iff, readsIf.fillsIf bound, and_assoc,
    exists_and_left, exists_eq_left, final, Option.some.injEq]
  exact and_congr_right fun _ => eq_comm

end

section

variable {first : Decoder α} {next : α × Octets → Option (β × Octets)} {left right : Octets}
  {value : α} {result : β}

/-- Two fields are read if both are. -/
theorem ReadsIf.bind (readsIf : ReadsIf condition first left value)
    (fillsIf : FillsIf further (fun octets => next (value, octets)) right result) :
    FillsIf (condition ∧ further) (fun octets => first octets >>= next) (left ++ right) result := by
  intro bound found
  rw [List.length_append] at bound
  have leftRead := readsIf (by omega) right
  have rightRead := fillsIf (by omega)
  simp only [Option.bind_eq_bind, Option.bind_eq_some_iff, leftRead, and_assoc, exists_and_left,
    exists_eq_left, rightRead]

theorem Reads.bindIf (reads : Reads first left value)
    (fillsIf : FillsIf condition (fun octets => next (value, octets)) right result) :
    FillsIf condition (fun octets => first octets >>= next) (left ++ right) result :=
  (reads.readsIf.bind fillsIf).congr (iff_of_eq (true_and condition))

theorem ReadsIf.bindFills (readsIf : ReadsIf condition first left value)
    (fills : Fills (fun octets => next (value, octets)) right result) :
    FillsIf condition (fun octets => first octets >>= next) (left ++ right) result :=
  (readsIf.bind fills.fillsIf).congr (iff_of_eq (and_true condition))

end

/-! ## Fields that may be missing -/

theorem ReadsIf.field {number : Nat} {tag : Tag} {decoder : Decoder α} {content : Octets}
    {value : α} (numbered : Tag.contextNumber? tag.octet = some number)
    (readsIf : ReadsIf condition decoder (encode tag content) value) :
    ReadsIf condition (decodeField number decoder) (encode tag content) (some value) := by
  intro bound rest result
  have found := readsIf bound rest
  rw [encode, List.cons_append] at found ⊢
  generalize encodeLength content.length ++ content ++ rest = after at found ⊢
  simp only [decodeField, List.length_cons, decodeFieldAfter, numbered, Nat.lt_irrefl, if_false,
    if_true, Option.bind_eq_bind, Option.bind_eq_some_iff, found, and_assoc, exists_and_left,
    exists_eq_left, pure, Option.some.injEq]
  exact and_congr_right fun _ => eq_comm

theorem Reads.field {number : Nat} {tag : Tag} {decoder : Decoder α} {content : Octets}
    {value : α} (numbered : Tag.contextNumber? tag.octet = some number)
    (reads : Reads decoder (encode tag content) value) :
    Reads (decodeField number decoder) (encode tag content) (some value) :=
  (reads.readsIf.field numbered).reads trivial

theorem Reads.wrapped {number : Nat} {decoder : Decoder α} {octets : Octets} {value : α}
    (small : number < 31) (reads : Reads decoder octets value) :
    Reads (decodeWrapped number decoder) (encode (Tag.constructedField number) octets)
      (some value) :=
  Reads.field (contextNumber?_constructedField small) reads.fills.nested

/-- What comes next is read if a decoder does not find its value and takes nothing. -/
theorem FillsIf.absent {first : Decoder (Option α)}
    {next : Option α × Octets → Option (β × Octets)} {octets : Octets} {result : β}
    (missing : first octets = some (none, octets))
    (fillsIf : FillsIf condition (fun octets => next (none, octets)) octets result) :
    FillsIf condition (fun octets => first octets >>= next) octets result := by
  intro bound found
  simpa [missing] using fillsIf bound found

/-! ## Lists -/

theorem length_le_flatMap {items : List α} {octets : α → Octets}
    (written : ∀ item ∈ items, octets item ≠ []) :
    items.length ≤ (items.flatMap octets).length := by
  induction items with
  | nil => exact Nat.zero_le _
  | cons head tail ih =>
      have first := List.length_pos_iff.mpr (written head List.mem_cons_self)
      have others := ih fun item member => written item (List.mem_cons_of_mem head member)
      rw [List.flatMap_cons, List.length_append, List.length_cons]
      omega

section

variable {conditions : α → Prop} {decoder : Decoder α} {octets : α → Octets} {items : List α}

theorem decodeRepeated_flatMap_iff {count : Nat} (enough : items.length ≤ count)
    (readsIf : ∀ item ∈ items, ReadsIf (conditions item) decoder (octets item) item)
    (written : ∀ item ∈ items, octets item ≠ [])
    (bound : (items.flatMap octets).length ≤ maxLength) (found : List α) :
    decodeRepeated decoder count (items.flatMap octets) = some found ↔
      (∀ item ∈ items, conditions item) ∧ found = items := by
  induction items generalizing count found with
  | nil => cases count <;> simp [decodeRepeated, eq_comm]
  | cons head tail ih =>
      rw [List.flatMap_cons, List.length_append] at bound
      have first := readsIf head List.mem_cons_self (by omega) (tail.flatMap octets)
      obtain ⟨octet, more, shape⟩ : ∃ octet more,
          octets head ++ tail.flatMap octets = octet :: more :=
        List.exists_cons_of_ne_nil
          (List.append_ne_nil_of_left_ne_nil (written head List.mem_cons_self) _)
      cases count with
      | zero => cases enough
      | succ count =>
          have others := ih (Nat.le_of_succ_le_succ enough)
            (fun item member => readsIf item (List.mem_cons_of_mem head member))
            (fun item member => written item (List.mem_cons_of_mem head member)) (by omega)
          rw [shape] at first
          rw [List.flatMap_cons, shape, List.forall_mem_cons]
          simp only [decodeRepeated, Option.bind_eq_bind, Option.bind_eq_some_iff, first,
            and_assoc, exists_and_left, exists_eq_left, others, Option.some.injEq, pure]
          exact and_congr_right fun _ => and_congr_right fun _ => eq_comm

theorem readsIf_list {tag : Tag}
    (readsIf : ∀ item ∈ items, ReadsIf (conditions item) decoder (octets item) item)
    (written : ∀ item ∈ items, octets item ≠ []) :
    ReadsIf (∀ item ∈ items, conditions item) (decodeList tag decoder)
      (encode tag (items.flatMap octets)) items := by
  intro bound rest result
  have short := (length_content_le tag _).trans bound
  have all := decodeRepeated_flatMap_iff (length_le_flatMap written) readsIf written short
  simp only [decodeList, decodeAll, decodeTagged_encode tag short rest, Option.bind_eq_bind,
    Option.bind_some, Option.bind_eq_some_iff, all, and_assoc, exists_and_left, exists_eq_left,
    Option.some.injEq, pure]
  exact and_congr_right fun _ => eq_comm

theorem decodeList_encode {tag : Tag} (reads : ∀ item ∈ items, Reads decoder (octets item) item)
    (written : ∀ item ∈ items, octets item ≠ [])
    (short : (items.flatMap octets).length ≤ maxLength) (rest : Octets) :
    decodeList tag decoder (encode tag (items.flatMap octets) ++ rest) = some (items, rest) := by
  have all : decodeRepeated decoder (items.flatMap octets).length (items.flatMap octets) =
      some items :=
    (decodeRepeated_flatMap_iff (length_le_flatMap written)
      (fun item member => (reads item member).readsIf) written short items).mpr
        ⟨fun _ _ => trivial, rfl⟩
  simp only [decodeList, decodeAll, decodeTagged_encode tag short rest, Option.bind_eq_bind,
    Option.bind_some, all]
  rfl

theorem reads_list {tag : Tag} (reads : ∀ item ∈ items, Reads decoder (octets item) item)
    (written : ∀ item ∈ items, octets item ≠ []) :
    Reads (decodeList tag decoder) (encode tag (items.flatMap octets)) items :=
  fun bound => decodeList_encode reads written ((length_content_le tag _).trans bound)

end

end CertAuthority.Der
