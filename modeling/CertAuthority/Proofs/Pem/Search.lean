import CertAuthority.Pem.Search
import CertAuthority.Proofs.Pem.Strict
import CertAuthority.Proofs.Text.Utf8

/-!
# Finding a block again

The block of a file that `encode` wrote is found by `find?`.  Neither the lines
of base64 nor the label have a dash, so that the marks of the boundaries are
met where they were written, and no line is empty, so that no header fields are
seen.  What stands behind the block is not looked at.
-/

namespace CertAuthority.Pem

/-! ## Markers -/

theorem markerEnd?_append (marker pending rest : Octets) :
    markerEnd? marker pending (pending ++ rest) = some pending.length := by
  induction pending with
  | nil => cases rest <;> rfl
  | cons expected pending ih => simp [markerEnd?, ih]

/-- Octets other than the first of a marker are passed over. -/
theorem markerEnd?_skip {first : UInt8} {marker before rest : Octets}
    (plain : ∀ octet ∈ before, octet ≠ first) :
    markerEnd? (first :: marker) (first :: marker) (before ++ rest) =
      (markerEnd? (first :: marker) (first :: marker) rest).map (· + before.length) := by
  induction before with
  | nil => simp
  | cons octet before ih =>
      have other := plain octet List.mem_cons_self
      have later := ih fun octet member => plain octet (List.mem_cons_of_mem _ member)
      rw [List.cons_append, markerEnd?, if_neg other, later]
      cases markerEnd? (first :: marker) (first :: marker) rest <;> rfl

theorem splitAt?_append {first : UInt8} {marker before : Octets} (rest : Octets)
    (plain : ∀ octet ∈ before, octet ≠ first) :
    splitAt? (first :: marker) (before ++ ((first :: marker) ++ rest)) = some (before, rest) := by
  have place : markerEnd? (first :: marker) (first :: marker)
      (before ++ ((first :: marker) ++ rest)) = some (before.length + (marker.length + 1)) := by
    rw [markerEnd?_skip plain, markerEnd?_append]
    simp [Nat.add_comm]
  rw [splitAt?, place]
  simp only [Option.bind_eq_bind, Option.bind_some, List.length_cons, Nat.add_sub_cancel,
    List.take_left]
  rw [← List.append_assoc, List.drop_left' (by simp)]
  rfl

theorem splitAt?_absent {first : UInt8} {marker octets : Octets}
    (plain : ∀ octet ∈ octets, octet ≠ first) : splitAt? (first :: marker) octets = none := by
  have place : markerEnd? (first :: marker) (first :: marker) (octets ++ []) =
      (none : Option Nat).map (· + octets.length) := markerEnd?_skip plain
  rw [List.append_nil] at place
  rw [splitAt?, place]
  rfl

/-! ## Labels -/

/-- Whether a text can stand as the label of a block: it is there, for there is no block without
one, and the dashes behind it are the first five in a row. -/
structure IsLabel (label : String) : Prop where
  written : Text.utf8 label ≠ []
  unbroken : ¬ dashes <:+: Text.utf8 label
  ended : (Text.utf8 label).getLast? ≠ some 0x2d

/-- The dashes behind a label are met, also after some dashes in front of it, if there are not
five in a row before. -/
theorem markerEnd?_label {matched : Nat} {label rest : Octets} (few : matched < 5)
    (unbroken : ¬ dashes <:+: List.replicate matched 0x2d ++ label)
    (ended : label.getLast? ≠ some 0x2d) (apart : label = [] → matched = 0) :
    markerEnd? dashes (List.replicate (5 - matched) 0x2d) (label ++ (dashes ++ rest)) =
      some (label.length + 5) := by
  have five : dashes = List.replicate 5 0x2d := by decide
  -- Over the label, with the dashes in front of what is left of it that were matched so far.
  induction label generalizing matched with
  | nil =>
      rw [apart rfl, ← five, List.nil_append, markerEnd?_append]
      rfl
  | cons octet label ih =>
      have last : label.getLast? ≠ some 0x2d := by
        intro same
        cases label with
        | nil => cases same
        | cons next label => exact ended same
      have pending : 5 - matched = (5 - (matched + 1)) + 1 := by omega
      rw [pending, List.replicate_succ, List.cons_append, markerEnd?]
      by_cases isDash : octet = 0x2d
      · subst isDash
        have longer : List.replicate matched 0x2d ++ 0x2d :: label =
            List.replicate (matched + 1) 0x2d ++ label := by
          rw [List.replicate_succ', List.append_assoc, List.singleton_append]
        rw [longer] at unbroken
        have fewer : matched + 1 < 5 := by
          by_contra many
          have exactly : matched + 1 = 5 := by omega
          rw [exactly, ← five] at unbroken
          exact unbroken (List.prefix_append _ _).isInfix
        have more : label ≠ [] := by
          rintro rfl
          exact ended rfl
        rw [if_pos rfl, ih fewer unbroken last fun none => absurd none more, Option.map_some,
          List.length_cons, Nat.add_right_comm]
      · have fresh : ¬ dashes <:+: List.replicate 0 0x2d ++ label := by
          intro inside
          refine unbroken (inside.trans ?_)
          exact ⟨List.replicate matched 0x2d ++ [octet], [], by simp⟩
        have later := ih (Nat.zero_lt_succ 4) fresh last fun _ => rfl
        rw [Nat.sub_zero, ← five] at later
        rw [if_neg isDash, later, Option.map_some, List.length_cons, Nat.add_right_comm]

theorem IsLabel.splitAt? {label : String} (isLabel : IsLabel label) (rest : Octets) :
    splitAt? dashes (Text.utf8 label ++ (dashes ++ rest)) = some (Text.utf8 label, rest) := by
  have five : dashes = List.replicate 5 0x2d := by decide
  have length : dashes.length = 5 := by decide
  have place : markerEnd? dashes (List.replicate (5 - 0) 0x2d)
      (Text.utf8 label ++ (dashes ++ rest)) = some ((Text.utf8 label).length + 5) :=
    markerEnd?_label (Nat.zero_lt_succ 4) isLabel.unbroken isLabel.ended fun _ => rfl
  rw [Nat.sub_zero, ← five] at place
  rw [Pem.splitAt?, place]
  simp only [Option.bind_eq_bind, Option.bind_some, length, Nat.add_sub_cancel, List.take_left]
  rw [← List.append_assoc, List.drop_left' (by simp [length])]
  rfl

/-! ## Lines of base64 -/

theorem mem_wrapLines {count : Nat} {octets : Octets} {octet : UInt8}
    (member : octet ∈ wrapLines count octets) : octet ∈ octets ∨ octet = newline := by
  fun_induction wrapLines count octets with
  | case1 => cases member
  | case2 octets => simpa using member
  | case3 count octets _ ih =>
      rcases List.mem_append.mp member with line | later
      · exact Or.inl (List.mem_of_mem_take line)
      · rcases List.mem_cons.mp later with rfl | rest
        · exact Or.inr rfl
        · exact (ih rest).imp_left List.mem_of_mem_drop

theorem filter_wrapLines {keep : UInt8 → Bool} {count : Nat} {octets : Octets}
    (kept : ∀ octet ∈ octets, keep octet = true) (dropped : keep newline = false) :
    (wrapLines count octets).filter keep = octets := by
  fun_induction wrapLines count octets with
  | case1 => rfl
  | case2 octets => simp [dropped, List.filter_eq_self.mpr kept]
  | case3 count octets _ ih =>
      have line : (octets.take lineWidth).filter keep = octets.take lineWidth :=
        List.filter_eq_self.mpr fun octet member => kept octet (List.mem_of_mem_take member)
      have rest := ih fun octet member => kept octet (List.mem_of_mem_drop member)
      rw [List.filter_append, line, List.filter_cons_of_neg (by simp [dropped]), rest,
        List.take_append_drop]

/-- Two line ends in a row. -/
def blankLine : Octets := [newline, newline]

theorem markerEnd?_line {line rest : Octets} (written : line ≠ [])
    (plain : ∀ octet ∈ line, octet ≠ newline) :
    markerEnd? blankLine [newline] (line ++ rest) =
      markerEnd? blankLine blankLine (line ++ rest) := by
  rcases List.exists_cons_of_ne_nil written with ⟨head, tail, rfl⟩
  have other := plain head List.mem_cons_self
  simp [blankLine, markerEnd?, other]

theorem markerEnd?_blankLine_wrapLines {count : Nat} {octets : Octets}
    (plain : ∀ octet ∈ octets, octet ≠ newline) :
    markerEnd? blankLine blankLine (wrapLines count octets) = none ∧
      markerEnd? blankLine [newline] (wrapLines count octets) = none := by
  fun_induction wrapLines count octets with
  | case1 => exact ⟨rfl, rfl⟩
  | case2 octets written =>
      have skipped : markerEnd? blankLine blankLine (octets ++ [newline]) = none := by
        rw [blankLine, markerEnd?_skip plain]
        rfl
      exact ⟨skipped, by rw [markerEnd?_line written plain, skipped]⟩
  | case3 count octets written ih =>
      have line : ∀ octet ∈ octets.take lineWidth, octet ≠ newline :=
        fun octet member => plain octet (List.mem_of_mem_take member)
      have rest := ih fun octet member => plain octet (List.mem_of_mem_drop member)
      have filled : octets.take lineWidth ≠ [] := by
        simpa [lineWidth] using written
      have skipped : markerEnd? blankLine blankLine
          (octets.take lineWidth ++ newline :: wrapLines count (octets.drop lineWidth)) = none := by
        have next := rest.2
        rw [blankLine] at next ⊢
        rw [markerEnd?_skip line, markerEnd?, if_pos rfl, next]
        rfl
      exact ⟨skipped, by rw [markerEnd?_line filled line, skipped]⟩

theorem splitHeaders_wrapLines {count : Nat} {octets : Octets}
    (characters : ∀ octet ∈ octets, Base64.isCharacter octet = true) :
    splitHeaders (wrapLines count octets) = ([], wrapLines count octets) := by
  have noBlank : splitAt? [0x0a, 0x0a] (wrapLines count octets) = none := by
    have place : markerEnd? blankLine blankLine (wrapLines count octets) = none :=
      (markerEnd?_blankLine_wrapLines fun octet member =>
        (isCharacter_plain (characters octet member)).1).1
    rw [blankLine, newline] at place
    rw [splitAt?, place]
    rfl
  have noReturn : splitAt? [0x0d, 0x0a, 0x0d, 0x0a] (wrapLines count octets) = none := by
    refine splitAt?_absent fun octet member => ?_
    rcases mem_wrapLines member with inside | rfl
    · exact (isCharacter_plain (characters octet inside)).2.1
    · decide
  rw [splitHeaders, noBlank]
  simp only [noReturn, Option.getD_none]

/-- Blank characters among seven-bit ones. -/
theorem isBlank_character {octet : UInt8} (character : Base64.isCharacter octet = true) :
    Text.isBlank (Char.ofNat octet.toNat) = false := by
  revert character
  exact Octets.forall_octet (fun octet => Base64.isCharacter octet = true →
    Text.isBlank (Char.ofNat octet.toNat) = false) (by decide +kernel) octet

theorem decodeBody?_wrapLines {count : Nat} {octets : Octets}
    (characters : ∀ octet ∈ octets, Base64.isCharacter octet = true) :
    decodeBody? (wrapLines count octets) = Base64.decode? octets := by
  have asciiOctets : Text.isAscii octets = true := by
    simp only [Text.isAscii, List.all_eq_true, decide_eq_true_eq]
    intro octet member
    exact (isCharacter_plain (characters octet member)).2.2.2.2.2
  have ascii : Text.isAscii (wrapLines count octets) = true := by
    simp only [Text.isAscii, List.all_eq_true, decide_eq_true_eq] at asciiOctets ⊢
    intro octet member
    rcases mem_wrapLines member with inside | rfl
    · exact asciiOctets octet inside
    · decide
  have visible : ((wrapLines count octets).filter fun octet =>
      !Text.isBlank (Char.ofNat octet.toNat)) = octets :=
    filter_wrapLines (fun octet member => by rw [isBlank_character (characters octet member)]; rfl)
      (by decide)
  rw [decodeBody?, Text.ofUtf8?_ascii ascii]
  simp only [Option.bind_eq_bind, Option.bind_some, Text.asciiText, String.toList_ofList,
    List.filter_map, Function.comp_def, visible]
  rw [← Text.asciiText, Text.utf8_asciiText asciiOctets]

/-! ## The block -/

theorem dropWhile_isSpace_wrapLines {count : Nat} {octets : Octets} (rest : Octets)
    (written : octets ≠ []) (enough : octets.length ≤ count)
    (characters : ∀ octet ∈ octets, Base64.isCharacter octet = true) :
    (newline :: (wrapLines count octets ++ rest)).dropWhile isSpace =
      wrapLines count octets ++ rest := by
  rcases List.exists_cons_of_ne_nil written with ⟨head, tail, rfl⟩
  have first := isCharacter_plain (characters head List.mem_cons_self)
  have visible : isSpace head = false := by
    simp only [isSpace, Bool.or_eq_false_iff, beq_eq_false_iff_ne]
    exact ⟨⟨⟨first.2.2.2.1, first.1⟩, first.2.1⟩, first.2.2.2.2.1⟩
  have start : ∃ more, wrapLines count (head :: tail) = head :: more := by
    cases count with
    | zero => cases enough
    | succ count => exact ⟨_, rfl⟩
  rcases start with ⟨more, shape⟩
  rw [shape, List.dropWhile_cons_of_pos (by rfl), List.cons_append,
    List.dropWhile_cons_of_neg (by simp [visible])]

/-- A block is read as its body if that shows from the first octet behind the boundary, has no
dashes and does not begin with header fields. -/
theorem find?_block {label : String} {start body after : Octets} (isLabel : IsLabel label)
    (shows : ∀ rest, (start ++ (endMark ++ rest)).dropWhile isSpace = body ++ (endMark ++ rest))
    (dashless : ∀ octet ∈ body, octet ≠ 0x2d) (headless : splitHeaders body = ([], body)) :
    find? (beginMark ++ (Text.utf8 label ++ (dashes ++ (start ++ (endMark ++ (Text.utf8 label ++
      (dashes ++ after))))))) = decodeBody? body := by
  have beginFirst : beginMark = 0x2d :: Text.utf8 "----BEGIN " := by decide
  have endFirst : endMark = 0x2d :: Text.utf8 "----END " := by decide
  have begins : ∀ rest, splitAt? beginMark (beginMark ++ rest) = some ([], rest) := by
    rw [beginFirst]
    intro rest
    exact splitAt?_append rest (fun octet member => absurd member List.not_mem_nil)
  have labels : ∀ rest, splitAt? dashes (Text.utf8 label ++ (dashes ++ rest)) =
      some (Text.utf8 label, rest) := isLabel.splitAt?
  have ends : ∀ rest, splitAt? endMark (body ++ (endMark ++ rest)) = some (body, rest) := by
    rw [endFirst]
    intro rest
    exact splitAt?_append rest dashless
  have empty : areHeaders [] = true := by decide
  rw [find?, begins]
  simp only [Option.bind_eq_bind, Option.bind_some, labels, shows, ends, headless,
    isLabel.written, Text.ofUtf8?_utf8, empty, Option.isSome_some, ne_eq, not_false_eq_true,
    and_self, if_true]

/-- The block of a file is found, whatever its label. -/
theorem find?_encode {label : String} {octets : Octets} (isLabel : IsLabel label)
    (written : octets ≠ []) : find? (encode label octets) = some octets := by
  have characters : ∀ octet ∈ Base64.encode octets, Base64.isCharacter octet = true :=
    fun octet member => Base64.isCharacter_encode member
  have filled := Base64.encode_ne_nil written
  generalize body : Base64.encode octets = encoded at characters filled
  have noDash : ∀ octet ∈ wrapLines encoded.length encoded, octet ≠ 0x2d := by
    intro octet member
    rcases mem_wrapLines member with inside | rfl
    · exact (isCharacter_plain (characters octet inside)).2.2.1
    · decide
  have shape : encode label octets = beginMark ++ (Text.utf8 label ++ (dashes ++
      ((newline :: wrapLines encoded.length encoded) ++ (endMark ++ (Text.utf8 label ++
        (dashes ++ [newline])))))) := by
    simp only [encode, body, List.append_assoc, List.cons_append]
  have shows : ∀ rest, ((newline :: wrapLines encoded.length encoded) ++
      (endMark ++ rest)).dropWhile isSpace =
        wrapLines encoded.length encoded ++ (endMark ++ rest) :=
    fun _ => dropWhile_isSpace_wrapLines _ filled (Nat.le_refl _) characters
  rw [shape, find?_block isLabel shows noDash (splitHeaders_wrapLines characters),
    decodeBody?_wrapLines characters, ← body, Base64.decode?_encode]

/-- A block without octets has no lines between its boundaries, and is found as well. -/
theorem find?_encode_nil {label : String} (isLabel : IsLabel label) :
    find? (encode label []) = some [] := by
  have shape : encode label [] = beginMark ++ (Text.utf8 label ++ (dashes ++ ([newline] ++
      (endMark ++ (Text.utf8 label ++ (dashes ++ [newline])))))) := by
    simp only [encode, List.append_assoc]
    rfl
  have endFirst : endMark = 0x2d :: Text.utf8 "----END " := by decide
  have shows : ∀ rest, ([newline] ++ (endMark ++ rest)).dropWhile isSpace =
      [] ++ (endMark ++ rest) := by
    rw [endFirst]
    exact fun rest => rfl
  rw [shape, find?_block isLabel shows (List.forall_mem_nil _) (by decide)]
  decide

/-! ## What stands behind the block -/

theorem markerEnd?_further {marker pending octets : Octets} {count : Nat}
    (found : markerEnd? marker pending octets = some count) (further : Octets) :
    count ≤ octets.length ∧ markerEnd? marker pending (octets ++ further) = some count := by
  induction octets generalizing pending count with
  | nil =>
      cases pending with
      | nil =>
          cases found
          exact ⟨Nat.le_refl 0, by cases further <;> rfl⟩
      | cons => cases found
  | cons octet octets ih =>
      cases pending with
      | nil =>
          cases found
          exact ⟨Nat.zero_le _, rfl⟩
      | cons expected pending =>
          rcases Option.map_eq_some_iff.mp found with ⟨later, rest, rfl⟩
          rcases ih rest with ⟨le, same⟩
          refine ⟨Nat.succ_le_succ le, ?_⟩
          rw [List.cons_append, markerEnd?, same]
          rfl

theorem splitAt?_further {marker octets before rest : Octets}
    (found : splitAt? marker octets = some (before, rest)) (further : Octets) :
    splitAt? marker (octets ++ further) = some (before, rest ++ further) := by
  rcases Option.bind_eq_some_iff.mp found with ⟨count, place, shape⟩
  cases shape
  rcases markerEnd?_further place further with ⟨le, same⟩
  rw [splitAt?, same]
  simp only [Option.bind_eq_bind, Option.bind_some]
  rw [List.take_append_of_le_length (le.trans' (Nat.sub_le _ _)), List.drop_append_of_le_length le]
  rfl

theorem dropWhile_further {keep : UInt8 → Bool} {octets : Octets}
    (shown : octets.dropWhile keep ≠ []) (further : Octets) :
    (octets ++ further).dropWhile keep = octets.dropWhile keep ++ further := by
  rw [List.dropWhile_append, if_neg (by simpa using shown)]

/-- The first block is found, whatever stands behind it. -/
theorem find?_further {file octets : Octets} (found : find? file = some octets)
    (further : Octets) : find? (file ++ further) = some octets := by
  simp only [find?, Option.bind_eq_bind, Option.bind_eq_some_iff] at found
  rcases found with ⟨⟨_, afterBegin⟩, begins, ⟨label, afterLabel⟩, labels, ⟨content, afterContent⟩,
    ends, ⟨endLabel, after⟩, endLabels, body⟩
  have shown : afterLabel.dropWhile isSpace ≠ [] := by
    intro none
    rw [none] at ends
    cases ends
  rw [find?, splitAt?_further begins]
  simp only [Option.bind_eq_bind, Option.bind_some]
  rw [splitAt?_further labels]
  simp only [Option.bind_some]
  rw [dropWhile_further shown, splitAt?_further ends]
  simp only [Option.bind_some]
  rw [splitAt?_further endLabels]
  exact body
/-- Whatever octets a block is written for, they are found in front of anything else. -/
theorem find?_encode_append {label : String} (isLabel : IsLabel label) (octets further : Octets) :
    find? (encode label octets ++ further) = some octets := by
  apply find?_further
  by_cases written : octets = []
  · rw [written]
    exact find?_encode_nil isLabel
  · exact find?_encode isLabel written

end CertAuthority.Pem
