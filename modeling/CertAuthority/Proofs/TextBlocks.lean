import CertAuthority.Proofs.Pem.Search
import CertAuthority.Proofs.SignedOctets

/-!
# Blocks and files of certificates

A block is two boundary lines and between them base64 in full lines, of which
only the last may be shorter; every line is ended by a newline
(`Pem.IsBlock`).  `Pem.find?` reads it again under every label without a dash,
whatever stands behind it.

The file of a certificate is written and read in a way of its own.  Since a
certificate is never without octets, its file is a block, and either reader
reads what is written for the other.
-/

namespace CertAuthority

namespace Pem

/-! ## Lines -/

/-- Lines, each with the newline that ends it. -/
def endedLines (lines : List Octets) : Octets :=
  lines.flatMap (· ++ [newline])

/-- Whether lines hold octets in their order, as many in each as there is room for. -/
structure AreLinesOf (lines : List Octets) (octets : Octets) : Prop where
  joined : lines.flatten = octets
  written : ∀ line ∈ lines, line ≠ []
  width : ∀ line ∈ lines, line.length ≤ lineWidth
  full : ∀ line ∈ lines.dropLast, line.length = lineWidth

theorem AreLinesOf.nil : AreLinesOf [] [] :=
  ⟨rfl, nofun, nofun, nofun⟩

/-- A line in front of others is full if there are others. -/
theorem AreLinesOf.cons {lines : List Octets} {octets : Octets} (filled : octets ≠ [])
    (rest : AreLinesOf lines (octets.drop lineWidth)) :
    AreLinesOf (octets.take lineWidth :: lines) octets where
  joined := by rw [List.flatten_cons, rest.joined, List.take_append_drop]
  written := List.forall_mem_cons.mpr ⟨by simpa [lineWidth] using filled, rest.written⟩
  width := List.forall_mem_cons.mpr ⟨List.length_take_le _ _, rest.width⟩
  full := by
    rcases lines with _ | ⟨next, others⟩
    · exact List.forall_mem_nil _
    · have more : octets.drop lineWidth ≠ [] := by
        rw [← rest.joined]
        exact List.append_ne_nil_of_left_ne_nil (rest.written next List.mem_cons_self) _
      have long : lineWidth ≤ octets.length := by
        rw [ne_eq, List.drop_eq_nil_iff, Nat.not_le] at more
        exact more.le
      rw [List.dropLast_cons_cons]
      exact List.forall_mem_cons.mpr ⟨List.length_take_of_le long, rest.full⟩

theorem exists_lines {count : Nat} {octets : Octets} (enough : octets.length ≤ count) :
    ∃ lines, AreLinesOf lines octets ∧ wrapLines count octets = endedLines lines := by
  fun_induction wrapLines count octets with
  | case1 => exact ⟨[], AreLinesOf.nil, rfl⟩
  | case2 octets filled => exact absurd (List.length_eq_zero_iff.mp (Nat.le_zero.mp enough)) filled
  | case3 count octets filled ih =>
      rcases ih (by rw [List.length_drop]; simp only [lineWidth]; omega) with ⟨lines, are, wrapped⟩
      refine ⟨octets.take lineWidth :: lines, are.cons filled, ?_⟩
      rw [wrapped, endedLines, endedLines, List.flatMap_cons, List.append_assoc,
        List.singleton_append]

/-! ## Blocks -/

/-- The line that opens a block. -/
def beginLine (label : String) : Octets :=
  Text.utf8 ("-----BEGIN " ++ label ++ "-----")

/-- The line that closes a block. -/
def endLine (label : String) : Octets :=
  Text.utf8 ("-----END " ++ label ++ "-----")

/-- Whether a file is the block of a kind for octets: their base64 in lines between the two
boundary lines. -/
def IsBlock (label : String) (octets file : Octets) : Prop :=
  ∃ lines, AreLinesOf lines (Base64.encode octets) ∧
    (∀ line ∈ lines, ∀ octet ∈ line, Base64.isCharacter octet = true) ∧
      file = endedLines (beginLine label :: (lines ++ [endLine label]))

theorem isBlock_encode (label : String) (octets : Octets) :
    IsBlock label octets (encode label octets) := by
  rcases exists_lines (Nat.le_refl (Base64.encode octets).length) with ⟨lines, are, wrapped⟩
  refine ⟨lines, are, fun line inside octet member => ?_, ?_⟩
  · apply Base64.isCharacter_encode
    rw [← are.joined]
    exact List.mem_flatten.mpr ⟨line, inside, member⟩
  · have begins : beginLine label = beginMark ++ Text.utf8 label ++ dashes := by
      rw [beginLine, Text.utf8_append, Text.utf8_append]
      rfl
    have ends : endLine label = endMark ++ Text.utf8 label ++ dashes := by
      rw [endLine, Text.utf8_append, Text.utf8_append]
      rfl
    simp only [encode, wrapped, begins, ends, endedLines, List.flatMap_cons, List.flatMap_append,
      List.flatMap_nil, List.append_assoc, List.cons_append, List.nil_append, List.append_nil]

/-! ## Labels -/

/-- Where there is no dash at all, there are not five in a row. -/
theorem isLabel_of_dashless {label : String} (written : label ≠ "")
    (dashless : '-' ∉ label.toList) : IsLabel label := by
  have noDash : 0x2d ∉ Text.utf8 label :=
    fun member => dashless (Text.mem_toList_of_mem_utf8 member (by decide))
  have first : 0x2d ∈ dashes := by decide
  exact ⟨fun empty => written (Text.utf8_eq_nil.mp empty),
    fun inside => noDash (inside.subset first), fun last => noDash (List.mem_of_getLast? last)⟩

end Pem

/-! ## Files of certificates -/

namespace X509.Certificate

theorem isLabel_label : Pem.IsLabel label :=
  Pem.isLabel_of_dashless (by decide) (by decide)

theorem file_eq (certificate : Certificate) :
    certificate.file = Pem.encode label certificate.encode :=
  Pem.encodeFile_eq_encode label (Der.encode_ne_nil _ _)

theorem ofFile_encode {certificate : Certificate}
    (short : certificate.encode.length ≤ Der.maxLength) :
    ofFile (Pem.encode label certificate.encode) = ofOctets certificate.encode := by
  have block : Pem.decode? label (Pem.encode label certificate.encode) = some certificate.encode :=
    Pem.decode?_encode label (Der.encode_ne_nil _ _)
  have whole : (decode certificate.encode).map Prod.fst =
      Der.complete decode certificate.encode := Der.map_decodeNested_encode short
  rw [ofFile, ofOctets, ofFile?, block, ← whole]
  simp only [Option.bind_eq_bind, Option.bind_some]
  cases decode certificate.encode <;> rfl

/-- The file of a certificate is a block that holds its octets, and a block that is written for
these octets is read as they are.  Under a label without a dash, as is one of letters, digits and
spaces, every octet string is written as a block in lines and found again in front of anything. -/
theorem blocks_agree (certificate : Certificate) (octets : Octets) (label : String) :
    (certificate.encode.length ≤ Der.maxLength →
      Pem.find? certificate.file = some certificate.encode ∧
        ofFile (Pem.encode "CERTIFICATE" certificate.encode) = ofOctets certificate.encode) ∧
      (label ≠ "" → '-' ∉ label.toList →
        Pem.IsBlock label octets (Pem.encode label octets) ∧
          ∀ further, Pem.find? (Pem.encode label octets ++ further) = some octets) := by
  constructor
  · intro short
    refine ⟨?_, ofFile_encode short⟩
    rw [file_eq]
    exact Pem.find?_encode isLabel_label (Der.encode_ne_nil _ _)
  · intro written dashless
    exact ⟨Pem.isBlock_encode label octets,
      Pem.find?_encode_append (Pem.isLabel_of_dashless written dashless) octets⟩

/-- A certificate is found in its file, octets that fill their line in front of another block, and
a block without octets as well. -/
theorem blocks_agree_fullLine :
    (exampleCertificate []).encode.length ≤ Der.maxLength ∧
      Pem.find? (exampleCertificate []).file = some (exampleCertificate []).encode ∧
        "NEW KEY 2" ≠ "" ∧ '-' ∉ "NEW KEY 2".toList ∧
          Pem.find? (Pem.encode "NEW KEY 2" (List.replicate 48 0xff) ++ Pem.encode "KEY" [0x01]) =
              some (List.replicate 48 0xff) ∧
            Pem.find? (Pem.encode "NEW KEY 2" [] ++ Pem.encode "KEY" [0x01]) = some [] := by
  have short : (exampleCertificate []).encode.length ≤ Der.maxLength := by decide +kernel
  have written : "NEW KEY 2" ≠ "" := by decide
  have dashless : '-' ∉ "NEW KEY 2".toList := by decide
  have full := blocks_agree (exampleCertificate []) (List.replicate 48 0xff) "NEW KEY 2"
  have empty := blocks_agree (exampleCertificate []) [] "NEW KEY 2"
  exact ⟨short, (full.1 short).1, written, dashless, (full.2 written dashless).2 _,
    (empty.2 written dashless).2 _⟩

end X509.Certificate

end CertAuthority
