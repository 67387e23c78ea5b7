import CertAuthority.Host.Email
import CertAuthority.Proofs.Text.Utf8
import Mathlib.Data.List.TakeWhile

/-!
# Mailboxes in texts

An address is two sequences of atoms with single dots between them, on both
sides of an at sign.  A mailbox is an address alone, or one in angle brackets at
the end, after a display name without such brackets.

What is read from a text is the address of the mailbox that the text is
(`Email.parse?_eq_some_iff`), so that an address alone is read as itself and
reading twice gives the same as reading once.  No character of an address is a
bracket; each of the two may therefore be looked for on its own, as long as none
stands without the other (`Email.isMailbox_iff_isMatch`).
-/

namespace CertAuthority.Email

/-! ## Addresses -/

/-- The characters of atoms. -/
def IsAtext (char : Char) : Prop :=
  ('A' ≤ char ∧ char ≤ 'Z' ∨ 'a' ≤ char ∧ char ≤ 'z' ∨ '0' ≤ char ∧ char ≤ '9') ∨
    char ∈ "!#$%&'*+-/=?^_\x60\x7b|\x7d~".toList

instance : DecidablePred IsAtext :=
  fun _ => inferInstanceAs (Decidable (_ ∨ _))

/-- An atom has at least one character. -/
structure IsAtom (chars : List Char) : Prop where
  nonempty : chars ≠ []
  plain : ∀ char ∈ chars, IsAtext char

/-- Atoms with single dots between them. -/
inductive IsDotAtom : List Char → Prop
  | atom {chars : List Char} (isAtom : IsAtom chars) : IsDotAtom chars
  | dot {first others : List Char} (isAtom : IsAtom first) (areAtoms : IsDotAtom others) :
      IsDotAtom (first ++ '.' :: others)

/-- An address has a local part before its at sign and a domain behind it. -/
def IsAddrSpec (chars : List Char) : Prop :=
  ∃ localPart domain, IsDotAtom localPart ∧ IsDotAtom domain ∧ chars = localPart ++ '@' :: domain

theorem isAtomChar_iff {char : Char} : isAtomChar char = true ↔ IsAtext char := by
  have alphanumeric : char.isAlphanum = true ↔
      'A' ≤ char ∧ char ≤ 'Z' ∨ 'a' ≤ char ∧ char ≤ 'z' ∨ '0' ≤ char ∧ char ≤ '9' := by
    have spelled : char.isAlphanum = (decide ('A' ≤ char ∧ char ≤ 'Z') ||
        'a' ≤ char && char ≤ 'z' || '0' ≤ char && char ≤ '9') := rfl
    simp only [spelled, Bool.or_eq_true, Bool.and_eq_true, decide_eq_true_eq, or_assoc]
  have marks : "!#$%&'*+/=?^_\x60\x7b|\x7d~-".toList.Perm
      "!#$%&'*+-/=?^_\x60\x7b|\x7d~".toList := by decide
  rw [isAtomChar, Bool.or_eq_true, alphanumeric, List.contains_iff_mem, marks.mem_iff, IsAtext]

theorem IsAtext.ascii {char : Char} (plain : IsAtext char) : char.toNat < 128 :=
  Text.ascii_of_isAlphanum_or_contains (by decide) (isAtomChar_iff.mpr plain)

namespace IsDotAtom

variable {chars : List Char}

theorem ne_nil (areAtoms : IsDotAtom chars) : chars ≠ [] := by
  cases areAtoms with
  | atom isAtom => exact isAtom.nonempty
  | dot isAtom others => simp

theorem plain_or_dot (areAtoms : IsDotAtom chars) : ∀ char ∈ chars, IsAtext char ∨ char = '.' := by
  induction areAtoms with
  | atom isAtom => exact fun char member => .inl (isAtom.plain char member)
  | dot isAtom others ih =>
      intro char member
      rcases List.mem_append.mp member with inFirst | inOthers
      · exact .inl (isAtom.plain char inFirst)
      · rcases List.mem_cons.mp inOthers with mark | inOthers
        · exact .inr mark
        · exact ih char inOthers

theorem not_mem (areAtoms : IsDotAtom chars) {mark : Char} (isMark : ¬ IsAtext mark)
    (noDot : mark ≠ '.') : mark ∉ chars :=
  fun member => (areAtoms.plain_or_dot mark member).elim isMark noDot

end IsDotAtom

/-! ### Recognizing them -/

/-- Behind a dot an atom has to begin; behind an atom that has begun the text may end. -/
theorem areDottedAtoms_append {atom : List Char} (isAtom : IsAtom atom) (fresh : Bool)
    (rest : List Char) : areDottedAtoms fresh (atom ++ rest) = areDottedAtoms false rest := by
  have noDot : ∀ char, IsAtext char → char ≠ '.' := by
    rintro _ plain rfl
    exact absurd plain (by decide)
  rcases isAtom with ⟨nonempty, plain⟩
  induction atom generalizing fresh with
  | nil => exact absurd rfl nonempty
  | cons char others ih =>
      have first := plain char List.mem_cons_self
      rw [List.cons_append, areDottedAtoms, if_neg (noDot char first), isAtomChar_iff.mpr first,
        Bool.true_and]
      cases others with
      | nil => rfl
      | cons next others =>
          exact ih false (List.cons_ne_nil _ _) fun char member =>
            plain char (List.mem_cons_of_mem _ member)

theorem areDottedAtoms_of_isDotAtom {chars : List Char} (areAtoms : IsDotAtom chars) :
    areDottedAtoms true chars = true := by
  induction areAtoms with
  | atom isAtom =>
      have whole := areDottedAtoms_append isAtom true []
      rwa [List.append_nil] at whole
  | dot isAtom areAtoms ih =>
      rw [areDottedAtoms_append isAtom, areDottedAtoms, if_pos rfl, ih]
      rfl

/-- What is accepted behind the characters that an atom has so far completes it to atoms. -/
theorem isDotAtom_append {begun chars : List Char} (plain : ∀ char ∈ begun, IsAtext char)
    (accepted : areDottedAtoms begun.isEmpty chars = true) : IsDotAtom (begun ++ chars) := by
  induction chars generalizing begun with
  | nil =>
      rw [areDottedAtoms, Bool.not_eq_true', List.isEmpty_eq_false_iff] at accepted
      rw [List.append_nil]
      exact .atom ⟨accepted, plain⟩
  | cons char rest ih =>
      rw [areDottedAtoms] at accepted
      split at accepted
      · rename_i isDot
        rcases Bool.and_eq_true_iff.mp accepted with ⟨complete, accepted⟩
        rw [Bool.not_eq_true', List.isEmpty_eq_false_iff] at complete
        subst isDot
        exact .dot ⟨complete, plain⟩ (ih (List.forall_mem_nil _) accepted)
      · rcases Bool.and_eq_true_iff.mp accepted with ⟨first, accepted⟩
        have longer : (begun ++ [char]).isEmpty = false := by simp
        rw [List.append_cons]
        refine ih ?_ (longer ▸ accepted)
        rw [List.forall_mem_append, List.forall_mem_singleton]
        exact ⟨plain, isAtomChar_iff.mp first⟩

theorem areDottedAtoms_iff {chars : List Char} :
    areDottedAtoms true chars = true ↔ IsDotAtom chars :=
  ⟨isDotAtom_append (List.forall_mem_nil _), areDottedAtoms_of_isDotAtom⟩

namespace IsAddrSpec

variable {chars : List Char}

theorem plain_or_mark (isAddress : IsAddrSpec chars) :
    ∀ char ∈ chars, IsAtext char ∨ char = '.' ∨ char = '@' := by
  rcases isAddress with ⟨localPart, domain, isLocal, isDomain, rfl⟩
  intro char member
  rcases List.mem_append.mp member with inLocal | behind
  · exact (isLocal.plain_or_dot char inLocal).imp_right .inl
  · rcases List.mem_cons.mp behind with mark | inDomain
    · exact .inr (.inr mark)
    · exact (isDomain.plain_or_dot char inDomain).imp_right .inl

theorem ascii (isAddress : IsAddrSpec chars) : ∀ char ∈ chars, char.toNat < 128 := by
  intro char member
  rcases isAddress.plain_or_mark char member with plain | rfl | rfl
  · exact plain.ascii
  · decide
  · decide

theorem not_mem_bracket (isAddress : IsAddrSpec chars) : '<' ∉ chars ∧ '>' ∉ chars :=
  ⟨fun member => absurd (isAddress.plain_or_mark _ member) (by decide),
    fun member => absurd (isAddress.plain_or_mark _ member) (by decide)⟩

theorem at_mem (isAddress : IsAddrSpec chars) : '@' ∈ chars := by
  rcases isAddress with ⟨localPart, domain, -, -, rfl⟩
  exact List.mem_append_right _ List.mem_cons_self

end IsAddrSpec

/-- The first character that fails a test, with what is before and behind it. -/
theorem takeWhile_eq_and_drop_eq_iff {passes : Char → Bool} {chars front rest : List Char}
    {mark : Char} : chars.takeWhile passes = front ∧ chars.drop front.length = mark :: rest ↔
      chars = front ++ mark :: rest ∧ (∀ char ∈ front, passes char = true) ∧
        passes mark = false := by
  constructor
  · rintro ⟨rfl, behind⟩
    have parts : chars.takeWhile passes ++ chars.dropWhile passes = chars :=
      List.takeWhile_append_dropWhile
    have dropped := congrArg (List.drop (chars.takeWhile passes).length) parts
    rw [List.drop_left, behind] at dropped
    have stops := List.head?_dropWhile_not passes chars
    rw [dropped] at parts stops
    exact ⟨parts.symm, fun _ => List.mem_takeWhile_imp, stops⟩
  · rintro ⟨rfl, before, stops⟩
    rw [List.takeWhile_append_of_pos before, List.takeWhile_cons_of_neg (by simp [stops]),
      List.append_nil]
    exact ⟨rfl, List.drop_left⟩

theorem isAddress_iff {chars : List Char} : isAddress chars = true ↔ IsAddrSpec chars := by
  simp only [isAddress, Bool.and_eq_true, areDottedAtoms_iff, Bool.not_eq_true',
    List.isEmpty_eq_false_iff]
  constructor
  · rintro ⟨⟨localPart, some⟩, domain⟩
    rcases List.exists_cons_of_ne_nil some with ⟨mark, rest, behind⟩
    rcases takeWhile_eq_and_drop_eq_iff.mp ⟨rfl, behind⟩ with ⟨split, -, stops⟩
    obtain rfl : mark = '@' := bne_eq_false_iff_eq.mp stops
    rw [behind] at domain
    exact ⟨_, rest, localPart, domain, split⟩
  · rintro ⟨localPart, domain, isLocal, isDomain, rfl⟩
    have before : ∀ char ∈ localPart, (char != '@') = true := fun char member =>
      bne_iff_ne.mpr fun mark => isLocal.not_mem (by decide) (by decide) (mark ▸ member)
    rcases takeWhile_eq_and_drop_eq_iff.mpr ⟨rfl, before, bne_self_eq_false '@'⟩ with
      ⟨front, behind⟩
    rw [front, behind]
    exact ⟨⟨isLocal, List.cons_ne_nil _ _⟩, isDomain⟩

/-! ## Mailboxes -/

theorem bracketed?_eq_some_iff {chars inner : List Char} :
    bracketed? chars = some inner ↔
      ∃ front, '<' ∉ front ∧ '>' ∉ front ∧ chars = front ++ '<' :: (inner ++ ['>']) := by
  have noBrackets : ∀ front : List Char,
      (∀ char ∈ front, (char != '<' && char != '>') = true) ↔ '<' ∉ front ∧ '>' ∉ front := by
    intro front
    simp only [Bool.and_eq_true, bne_iff_ne]
    constructor
    · intro none
      exact ⟨fun member => (none _ member).1 rfl, fun member => (none _ member).2 rfl⟩
    · rintro ⟨noOpening, noClosing⟩ char member
      exact ⟨fun mark => noOpening (mark ▸ member), fun mark => noClosing (mark ▸ member)⟩
  simp only [bracketed?]
  constructor
  · intro found
    split at found
    · rename_i rest behind
      split at found
      · rename_i reversed ending
        cases found
        rcases takeWhile_eq_and_drop_eq_iff.mp ⟨rfl, behind⟩ with ⟨split, before, -⟩
        rcases (noBrackets _).mp before with ⟨noOpening, noClosing⟩
        refine ⟨_, noOpening, noClosing, ?_⟩
        rw [← List.reverse_cons, ← ending, List.reverse_reverse]
        exact split
      · cases found
    · cases found
  · rintro ⟨front, noOpening, noClosing, rfl⟩
    have opening : ('<' != '<' && '<' != '>') = false := by decide
    rcases takeWhile_eq_and_drop_eq_iff.mpr
      ⟨rfl, (noBrackets front).mpr ⟨noOpening, noClosing⟩, opening⟩ with ⟨before, behind⟩
    rw [before, behind]
    simp

/-- A text is a mailbox with an address: the address alone, or in brackets behind a name. -/
def IsMailbox (text address : String) : Prop :=
  IsAddrSpec address.toList ∧
    (text = address ∨
      ∃ front : String, '<' ∉ front.toList ∧ '>' ∉ front.toList ∧
        text = front ++ "<" ++ address ++ ">")

/-- A text has an address in it, before which a name with a bracket may stand, and behind which a
bracket may stand. -/
def IsMatch (text address : String) : Prop :=
  IsAddrSpec address.toList ∧
    ∃ opening closing : String,
      (opening = "" ∨
          ∃ front : String, '<' ∉ front.toList ∧ '>' ∉ front.toList ∧ opening = front ++ "<") ∧
        (closing = "" ∨ closing = ">") ∧ text = opening ++ address ++ closing

/-- Each bracket may be looked for on its own, if a text ends in one exactly when it has one. -/
theorem isMailbox_iff_isMatch {text address : String} :
    IsMailbox text address ↔
      IsMatch text address ∧ ('<' ∈ text.toList ↔ text.toList.getLast? = some '>') := by
  constructor
  · rintro ⟨isAddress, rfl | ⟨front, noOpening, noClosing, rfl⟩⟩
    · refine ⟨⟨isAddress, "", "", .inl rfl, .inl rfl, by simp⟩, iff_of_false ?_ ?_⟩
      · exact isAddress.not_mem_bracket.1
      · exact fun last => isAddress.not_mem_bracket.2 (List.mem_of_getLast? last)
    · refine ⟨⟨isAddress, front ++ "<", ">", .inr ⟨front, noOpening, noClosing, rfl⟩, .inr rfl,
        rfl⟩, iff_of_true ?_ ?_⟩
      · simp
      · rw [String.toList_append, List.getLast?_append]
        rfl
  · rintro ⟨⟨isAddress, opening, closing, isOpening, isClosing, rfl⟩, both⟩
    have noBrackets := isAddress.not_mem_bracket
    refine ⟨isAddress, ?_⟩
    rcases isOpening with rfl | ⟨front, noOpening, noClosing, rfl⟩ <;>
      rcases isClosing with rfl | rfl
    · exact .inl (by simp)
    · -- A closing bracket alone asks for an opening one, which could only be in the address.
      have opens := both.mpr (by simp)
      simp [noBrackets] at opens
    · have closes := List.mem_of_getLast? (both.mp (by simp))
      simp [noClosing, noBrackets] at closes
    · exact .inr ⟨front, noOpening, noClosing, rfl⟩

theorem bracketed?_toList_eq_some_iff {text address : String} :
    bracketed? text.toList = some address.toList ↔
      ∃ front : String, '<' ∉ front.toList ∧ '>' ∉ front.toList ∧
        text = front ++ "<" ++ address ++ ">" := by
  rw [bracketed?_eq_some_iff]
  constructor
  · rintro ⟨front, noOpening, noClosing, split⟩
    refine ⟨String.ofList front, ?_, ?_, String.toList_injective ?_⟩
    · rwa [String.toList_ofList]
    · rwa [String.toList_ofList]
    · rw [split]
      simp
  · rintro ⟨front, noOpening, noClosing, rfl⟩
    exact ⟨front.toList, noOpening, noClosing, by simp⟩

theorem parse?_of_not_isAddress {text : String} (notWhole : ¬ isAddress text.toList = true) :
    parse? text = (bracketed? text.toList).bind fun inner =>
      if isAddress inner then some (String.ofList inner) else none := by
  rw [parse?, if_neg notWhole]
  cases bracketed? text.toList <;> rfl

/-- The address of a mailbox is read from it, and nothing is read from any other text. -/
theorem parse?_eq_some_iff {text address : String} :
    parse? text = some address ↔ IsMailbox text address := by
  by_cases whole : isAddress text.toList = true
  · have isAddress := isAddress_iff.mp whole
    rw [parse?, if_pos whole, Option.some.injEq]
    constructor
    · rintro rfl
      exact ⟨isAddress, .inl rfl⟩
    · rintro ⟨_, same | ⟨front, _, _, rfl⟩⟩
      · exact same
      · exact absurd isAddress.not_mem_bracket.1 (by simp)
  · simp only [parse?_of_not_isAddress whole, Option.bind_eq_some_iff,
      Option.ite_none_right_eq_some, Option.some.injEq]
    constructor
    · rintro ⟨inner, between, isAddress, rfl⟩
      rw [← String.toList_ofList (l := inner)] at between isAddress
      exact ⟨isAddress_iff.mp isAddress, .inr (bracketed?_toList_eq_some_iff.mp between)⟩
    · rintro ⟨isAddress, rfl | brackets⟩
      · exact absurd (isAddress_iff.mpr isAddress) whole
      · exact ⟨_, bracketed?_toList_eq_some_iff.mpr brackets, isAddress_iff.mpr isAddress,
          String.ofList_toList⟩

/-- An address alone is found as itself. -/
theorem parse?_of_isAddrSpec {text : String} (isAddress : IsAddrSpec text.toList) :
    parse? text = some text :=
  parse?_eq_some_iff.mpr ⟨isAddress, .inl rfl⟩

theorem parse?_of_no_at {text : String} (without : '@' ∉ text.toList) : parse? text = none := by
  refine Option.eq_none_iff_forall_ne_some.mpr fun address found => without ?_
  rcases parse?_eq_some_iff.mp found with ⟨isAddress, rfl | ⟨front, _, _, rfl⟩⟩
  · exact isAddress.at_mem
  · simp [isAddress.at_mem]

end CertAuthority.Email
