import CertAuthority.Octets
import CertAuthority.Yaml.Scalar.Gap

/-!
# Quoted scalars

Between single quotes a quote is written twice.  Between double quotes a
backslash begins an escape, which may be a code in hexadecimal or a line end
that does not count.  Both kinds go on over several lines.
-/

namespace CertAuthority.Yaml.QuotedScalar

/-- The character that a letter after a backslash stands for. -/
def escaped? (char : Char) : Option Char :=
  (("0abt\tnvfre \"/\\N_LP".toList).zip
    ['\x00', '\x07', '\x08', '\t', '\t', '\n', '\x0b', '\x0c', '\r', '\x1b', ' ', '"', '/', '\\',
      '\u0085', '\u00a0', '\u2028', '\u2029']).lookup char

/-- How many hexadecimal digits follow a letter after a backslash. -/
def codeLength? (char : Char) : Option Nat :=
  [('x', 2), ('u', 4), ('U', 8)].lookup char

/-- The character with a code, if there is one. -/
def ofCode? (code : Nat) : Option Char :=
  if code.isValidChar then some (Char.ofNat code) else none

/-- Reads on between single quotes, after text, last character first, and a gap. -/
def readSingle (text : List Char) (gap : Gap) : List Glyph → Option (List Char × List Glyph)
  | [] => none
  | glyph :: rest =>
      if isBlank glyph.char then readSingle text (gap.addBlank glyph.char) rest
      else if isLineEnd glyph.char then readSingle text (gap.addLineEnd glyph.char) rest
      else if Glyph.atDocumentMark (glyph :: rest) then none
      else if glyph.char = '\'' then
        match rest with
        | next :: rest' =>
            if next.char = '\'' then readSingle ('\'' :: (gap.fold ++ text)) Gap.empty rest'
            else some ((gap.fold ++ text).reverse, next :: rest')
        | [] => some ((gap.fold ++ text).reverse, [])
      else readSingle (glyph.char :: (gap.fold ++ text)) Gap.empty rest

/-- A code of which digits are still to be read. -/
structure PendingCode where
  digits : Nat
  value : Nat

/-- Reads on between double quotes, after text, last character first, and a gap; a code may
have begun. -/
def readDouble (text : List Char) (gap : Gap) (pending : Option PendingCode) :
    List Glyph → Option (List Char × List Glyph)
  | [] => none
  | glyph :: rest =>
      match pending with
      | some ⟨digits, value⟩ =>
          match Octets.hexValue? glyph.char with
          | none => none
          | some digit =>
              let value := 16 * value + digit
              if digits ≤ 1 then
                match ofCode? value with
                | none => none
                | some char => readDouble (char :: text) Gap.empty none rest
              else readDouble text gap (some ⟨digits - 1, value⟩) rest
      | none =>
          if isBlank glyph.char then readDouble text (gap.addBlank glyph.char) none rest
          else if isLineEnd glyph.char then readDouble text (gap.addLineEnd glyph.char) none rest
          else if Glyph.atDocumentMark (glyph :: rest) then none
          else if glyph.char = '"' then some ((gap.fold ++ text).reverse, rest)
          else if glyph.char = '\\' then
            match rest with
            | [] => none
            | next :: rest' =>
                if isLineEnd next.char then
                  readDouble (gap.fold ++ text) (.lines none []) none rest'
                else
                  match escaped? next.char, codeLength? next.char with
                  | some char, _ => readDouble (char :: (gap.fold ++ text)) Gap.empty none rest'
                  | none, some digits =>
                      readDouble (gap.fold ++ text) Gap.empty (some ⟨digits, 0⟩) rest'
                  | none, none => none
          else readDouble (glyph.char :: (gap.fold ++ text)) Gap.empty none rest

end CertAuthority.Yaml.QuotedScalar
