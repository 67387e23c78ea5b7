import CertAuthority.Text.Blank
import Mathlib.Data.List.DropRight
import Mathlib.Data.List.TakeWhile

/-!
# Trimmed texts

Trimming takes blank characters from the two ends of a text, and nothing else;
no blank character is left at either end.
-/

namespace CertAuthority.Text

/-- Whether a text has no other than blank characters. -/
def IsBlank (text : String) : Prop :=
  ∀ char ∈ text.toList, isBlank char = true

instance : DecidablePred IsBlank := fun text =>
  inferInstanceAs (Decidable (∀ char ∈ text.toList, isBlank char = true))

/-- Whether neither end of a text is a blank character. -/
structure IsTrimmed (text : String) : Prop where
  first : ∀ char, text.toList.head? = some char → isBlank char = false
  last : ∀ char, text.toList.getLast? = some char → isBlank char = false

theorem trimChars_eq (chars : List Char) :
    trimChars chars = (chars.dropWhile isBlank).rdropWhile isBlank :=
  rfl

theorem head?_trimChars {chars : List Char} {char : Char}
    (first : (trimChars chars).head? = some char) : isBlank char = false := by
  obtain ⟨rest, same⟩ : trimChars chars <+: chars.dropWhile isBlank := by
    rw [trimChars_eq]
    exact List.rdropWhile_prefix isBlank _
  have kept : (chars.dropWhile isBlank).head? = some char := by
    rw [← same, List.head?_append, first, Option.some_or]
  rw [← List.find?_not_eq_head?_dropWhile] at kept
  simpa using List.find?_some kept

theorem getLast?_trimChars {chars : List Char} {char : Char}
    (last : (trimChars chars).getLast? = some char) : isBlank char = false := by
  rw [trimChars_eq] at last
  obtain ⟨written, rfl⟩ := List.mem_getLast?_eq_getLast last
  simpa using List.rdropWhile_last_not isBlank (chars.dropWhile isBlank) written

theorem isTrimmed_trim (text : String) : IsTrimmed (trim text) where
  first _ first := head?_trimChars (by simpa [trim] using first)
  last _ last := getLast?_trimChars (by simpa [trim] using last)

/-- Trimming takes blank characters from the ends. -/
theorem exists_blanks_around (chars : List Char) :
    ∃ before after, chars = before ++ (trimChars chars ++ after) ∧
      (∀ char ∈ before, isBlank char = true) ∧ ∀ char ∈ after, isBlank char = true := by
  refine ⟨chars.takeWhile isBlank, (chars.dropWhile isBlank).rtakeWhile isBlank, ?_,
    fun _ => List.mem_takeWhile_imp, fun _ => List.mem_rtakeWhile_imp⟩
  rw [trimChars_eq, List.rdropWhile_append_rtakeWhile, List.takeWhile_append_dropWhile]

theorem trimChars_eq_nil {chars : List Char} :
    trimChars chars = [] ↔ ∀ char ∈ chars, isBlank char = true := by
  constructor
  · intro nothing
    obtain ⟨before, after, same, blankBefore, blankAfter⟩ := exists_blanks_around chars
    rw [nothing, List.nil_append] at same
    rw [same]
    intro char member
    exact (List.mem_append.mp member).elim (blankBefore char) (blankAfter char)
  · intro blank
    rw [trimChars, List.dropWhile_eq_nil_iff.mpr blank]
    rfl

theorem trim_eq_empty {text : String} : trim text = "" ↔ IsBlank text := by
  rw [trim, IsBlank, ← trimChars_eq_nil]
  simp

end CertAuthority.Text
