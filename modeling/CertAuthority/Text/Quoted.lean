import CertAuthority.Text.Hidden

/-!
# Quoted text

A text is shown between double quotes, with everything visible: line ends and
tabs as letters after a backslash, other characters without a glyph by their
number.
-/

namespace CertAuthority.Text

/-- The hexadecimal digits of a number. -/
def hexDigits (value : Nat) : List Char :=
  Nat.toDigits 16 value

/-- How one character is shown. -/
def quoteChar (char : Char) : List Char :=
  if char = '\n' then ['\\', 'n']
  else if char = '\r' then ['\\', 'r']
  else if char = '\t' then ['\\', 't']
  else if char = '\x00' then ['\\', '0']
  else if char = '"' then ['\\', '"']
  else if char = '\\' then ['\\', '\\']
  else if isHidden char then ['\\', 'u', '\x7b'] ++ hexDigits char.toNat ++ ['\x7d']
  else [char]

/-- A text as it is shown. -/
def quote (text : String) : String :=
  String.ofList ('"' :: (text.toList.flatMap quoteChar ++ ['"']))

end CertAuthority.Text
