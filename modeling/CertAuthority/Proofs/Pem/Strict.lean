import CertAuthority.Pem.Strict
import CertAuthority.Proofs.Base64

/-!
# Reading a block back

A file that `encodeFile` wrote is read back by `decode?`.  Its lines are joined
again one by one; that base64 text has no line ends of its own is what keeps
the end of a line apart from what the line says.  Only for want of octets is the
file another than the block that `encode` writes.
-/

namespace CertAuthority.Pem

/-- Whether base64 text may consist of an octet; no such octet has a meaning to the reader. -/
theorem isCharacter_plain {octet : UInt8} (character : Base64.isCharacter octet = true) :
    octet ≠ newline ∧ octet ≠ carriageReturn ∧ octet ≠ 0x2d ∧ octet ≠ 0x20 ∧ octet ≠ 0x09 ∧
      octet < 128 := by
  revert character
  exact Octets.forall_octet (fun octet => Base64.isCharacter octet = true →
    octet ≠ newline ∧ octet ≠ carriageReturn ∧ octet ≠ 0x2d ∧ octet ≠ 0x20 ∧ octet ≠ 0x09 ∧
      octet < 128) (by decide +kernel) octet

theorem dropLastLineEnd?_append {octets : Octets}
    (plain : octets.getLast? ≠ some carriageReturn) :
    dropLastLineEnd? (octets ++ [newline]) = some octets := by
  rcases List.eq_nil_or_concat octets with rfl | ⟨front, last, rfl⟩
  · rfl
  · have other : last ≠ 0x0d := by
      simpa [carriageReturn] using plain
    rw [dropLastLineEnd?, List.reverse_append, List.concat_eq_append, List.reverse_append]
    simp only [newline, List.reverse_cons, List.reverse_nil, List.nil_append, List.cons_append]
    split <;> simp_all

/-! ## Lines -/

theorem dropLineEnd?_newline (rest : Octets) : dropLineEnd? (newline :: rest) = some rest := rfl

/-- Lines, separated by their ends, of which all are full but the last. -/
structure Joins (joined octets : Octets) : Prop where
  last : joined.getLast? ≠ some carriageReturn
  length : octets.length ≤ joined.length
  read : ∀ count, octets.length ≤ count → joinLines? count joined = some octets

theorem joins_short {octets : Octets} (short : octets.length ≤ lineWidth)
    (plain : ∀ octet ∈ octets, octet ≠ carriageReturn) : Joins octets octets := by
  refine ⟨fun found => ?_, Nat.le_refl _, fun count _ => ?_⟩
  · exact plain _ (List.mem_of_getLast? found) rfl
  · cases count <;> exact if_pos short

theorem joins_long {octets joined : Octets} (long : lineWidth < octets.length)
    (rest : Joins joined (octets.drop lineWidth)) :
    Joins (octets.take lineWidth ++ newline :: joined) octets := by
  have full : (octets.take lineWidth).length = lineWidth :=
    List.length_take_of_le (Nat.le_of_lt long)
  have others := rest.length
  rw [List.length_drop] at others
  refine ⟨?_, ?_, fun count enough => ?_⟩
  · have filled : joined ≠ [] := by
      rintro rfl
      simp only [List.length_nil] at others
      omega
    rcases List.exists_cons_of_ne_nil filled with ⟨head, tail, rfl⟩
    have last : (head :: tail).getLast? = some ((head :: tail).getLast filled) :=
      List.getLast?_eq_some_getLast filled
    rw [List.getLast?_append, List.getLast?_cons_cons, last, Option.some_or, ← last]
    exact rest.last
  · rw [List.length_append, full, List.length_cons]
    omega
  · cases count with
    | zero => exact absurd enough (by omega)
    | succ count =>
        have more : ¬ (octets.take lineWidth ++ newline :: joined).length ≤ lineWidth := by
          rw [List.length_append, full, List.length_cons]
          omega
        have line := rest.read count (by rw [List.length_drop]; simp only [lineWidth] at *; omega)
        rw [joinLines?, if_neg more, List.drop_left' full, List.take_left' full]
        simp [dropLineEnd?, newline, line]

theorem joins_separateLines {count : Nat} {octets : Octets} (enough : octets.length ≤ count)
    (plain : ∀ octet ∈ octets, octet ≠ carriageReturn) :
    Joins (separateLines count octets) octets := by
  fun_induction separateLines count octets with
  | case1 octets => exact joins_short (enough.trans (Nat.zero_le _)) plain
  | case2 count octets short => exact joins_short short plain
  | case3 count octets long ih =>
      refine joins_long (Nat.not_le.mp long) (ih ?_ ?_)
      · rw [List.length_drop]
        simp only [lineWidth] at *
        omega
      · exact fun octet member => plain octet (List.mem_of_mem_drop member)

/-- Lines that all are ended have an end of a line more than lines that are separated. -/
theorem wrapLines_eq {count : Nat} {octets : Octets} (written : octets ≠ [])
    (enough : octets.length ≤ count) :
    wrapLines count octets = separateLines count octets ++ [newline] := by
  fun_induction separateLines count octets with
  | case1 octets => exact absurd (List.length_eq_zero_iff.mp (Nat.le_zero.mp enough)) written
  | case2 count octets short =>
      rcases List.exists_cons_of_ne_nil written with ⟨head, tail, rfl⟩
      have none : wrapLines count [] = [] := by cases count <;> rfl
      rw [wrapLines, List.drop_eq_nil_of_le short, List.take_of_length_le short, none]
      exact List.cons_ne_nil head tail
  | case3 count octets long ih =>
      have later : octets.drop lineWidth ≠ [] := fun empty => long (List.drop_eq_nil_iff.mp empty)
      have rest := ih later (by rw [List.length_drop]; simp only [lineWidth] at *; omega)
      rw [wrapLines, rest, List.append_assoc, List.cons_append]
      exact written

/-! ## Blocks -/

theorem isPrefixOf_append (left right : Octets) : left.isPrefixOf (left ++ right) = true := by
  simp

theorem dropFront?_append (left right : Octets) : dropFront? left (left ++ right) = some right := by
  simp [dropFront?]

theorem dropBack?_append (left right : Octets) : dropBack? right (left ++ right) = some left := by
  simp [dropBack?]

/-- A file that is one block is read back, also if there is nothing in it. -/
theorem decode?_encodeFile (label : String) (octets : Octets) :
    decode? label (encodeFile label octets) = some octets := by
  have plain : ∀ octet ∈ Base64.encode octets, octet ≠ carriageReturn :=
    fun octet member => (isCharacter_plain (Base64.isCharacter_encode member)).2.1
  have joins := joins_separateLines (Nat.le_refl _) plain
  generalize shown : separateLines (Base64.encode octets).length (Base64.encode octets) = joined
    at joins
  have shape : encodeFile label octets = (beginMark ++ Text.utf8 label ++ dashes) ++ newline ::
      ((joined ++ [newline] ++ (endMark ++ Text.utf8 label ++ dashes)) ++ [newline]) := by
    simp only [encodeFile, shown, List.append_assoc, List.cons_append, List.nil_append]
  have ended : (joined ++ [newline] ++ (endMark ++ Text.utf8 label ++ dashes)).getLast? ≠
      some carriageReturn := by
    have tail : dashes = Text.utf8 "----" ++ [0x2d] := by decide
    rw [tail, ← List.append_assoc (endMark ++ Text.utf8 label), ← List.append_assoc,
      List.getLast?_concat]
    decide
  have lines := joins.read joined.length joins.length
  unfold decode?
  rw [shape]
  generalize beginMark ++ Text.utf8 label ++ dashes = start
  generalize endMark ++ Text.utf8 label ++ dashes = last at ended
  simp only [isPrefixOf_append, if_true, dropFront?_append, dropLineEnd?_newline,
    dropLastLineEnd?_append ended, dropLastLineEnd?_append joins.last, dropBack?_append,
    Option.getD_some, Option.bind_eq_bind, Option.bind_some, lines, Base64.decode?_encode]

/-- A file that is one block is that block, unless there is nothing in it. -/
theorem encodeFile_eq_encode (label : String) {octets : Octets} (written : octets ≠ []) :
    encodeFile label octets = encode label octets := by
  have wrapped := wrapLines_eq (Base64.encode_ne_nil written) (Nat.le_refl _)
  simp only [encodeFile, encode, wrapped, List.append_assoc, List.cons_append, List.nil_append]

/-- A block is read back from the file that holds it. -/
theorem decode?_encode (label : String) {octets : Octets} (written : octets ≠ []) :
    decode? label (encode label octets) = some octets := by
  rw [← encodeFile_eq_encode label written]
  exact decode?_encodeFile label octets

end CertAuthority.Pem
