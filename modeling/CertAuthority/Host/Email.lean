/-!
# Mailbox addresses

An address is two dotted sequences of atoms around an at sign.  `Email.parse?`
reads it alone or between angle brackets after a display name, which may hold
anything but angle brackets.
-/

namespace CertAuthority.Email

/-- Whether a character may be in an atom. -/
def isAtomChar (char : Char) : Bool :=
  char.isAlphanum || "!#$%&'*+/=?^_\x60\x7b|\x7d~-".toList.contains char

/-- Whether characters are atoms with single dots between them; `fresh` if one has to begin. -/
def areDottedAtoms : (fresh : Bool) → List Char → Bool
  | fresh, [] => !fresh
  | fresh, char :: rest =>
      if char = '.' then !fresh && areDottedAtoms true rest
      else isAtomChar char && areDottedAtoms false rest

/-- Whether characters are an address. -/
def isAddress (chars : List Char) : Bool :=
  let front := chars.takeWhile (· != '@')
  let back := chars.drop front.length
  areDottedAtoms true front && !back.isEmpty && areDottedAtoms true (back.drop 1)

/-- The characters between angle brackets at the end of a text without others. -/
def bracketed? (chars : List Char) : Option (List Char) :=
  let front := chars.takeWhile (fun char => char != '<' && char != '>')
  match chars.drop front.length with
  | '<' :: rest =>
      match rest.reverse with
      | '>' :: inner => some inner.reverse
      | _ => none
  | _ => none

/-- The address in a text: all of it, or what is between brackets. -/
def parse? (text : String) : Option String :=
  if isAddress text.toList then some text
  else
    match bracketed? text.toList with
    | some inner => if isAddress inner then some (String.ofList inner) else none
    | none => none

end CertAuthority.Email
