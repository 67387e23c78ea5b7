import CertAuthority.Yaml.Token
import CertAuthority.Yaml.Glyph

/-!
# Anchors, tags and directives

A node may carry an anchor, by which aliases refer to it, and a tag that says
what kind of value it is.  Tags are written in full or by a handle that a
directive at the start of the document explains.
-/

namespace CertAuthority.Yaml

/-- Reads the name of an anchor or an alias, which only certain characters may follow. -/
def readAnchorName? (glyphs : List Glyph) : Option (List Char × List Glyph) :=
  let (name, rest) := Glyph.spanChars isNameChar glyphs
  if name ≠ [] ∧ (Glyph.atWordEnd rest ∨ "?:,]\x7d%@\x60".toList.any (Glyph.startsWith · rest)) then
    some (name, rest)
  else none

/-- Whether a character may be in a tag; some only in a tag between angle brackets. -/
def isTagChar (bracketed : Bool) (char : Char) : Bool :=
  isNameChar char || ";/?:@&=+$.!~*'()".toList.contains char ||
    (bracketed && [',', '[', ']'].contains char)

/-- How many octets the form of a character has that begins with a given one. -/
def formLength? (lead : UInt8) : Option Nat :=
  if lead < 0x80 then some 1
  else if lead < 0xc0 then none
  else if lead < 0xe0 then some 2
  else if lead < 0xf0 then some 3
  else if lead < 0xf8 then some 4
  else none

/-- Reads the octets of a tag; `missing` octets of a character are still to come. -/
def readTagOctets (bracketed : Bool) (missing : Nat) : List Glyph → Option (Octets × List Glyph)
  | [] => if missing = 0 then some ([], []) else none
  | glyph :: rest =>
      if glyph.char = '%' then
        match rest with
        | high :: low :: rest' => do
            let octet := UInt8.ofNat
              (16 * (← Octets.hexValue? high.char) + (← Octets.hexValue? low.char))
            let missing ←
              if missing = 0 then (formLength? octet).map (· - 1)
              else if 0x80 ≤ octet ∧ octet < 0xc0 then some (missing - 1) else none
            let (octets, rest'') ← readTagOctets bracketed missing rest'
            return (octet :: octets, rest'')
        | _ => none
      else if missing ≠ 0 then none
      else if isTagChar bracketed glyph.char then do
        let (octets, rest') ← readTagOctets bracketed 0 rest
        return (UInt8.ofNat glyph.char.toNat :: octets, rest')
      else some ([], glyph :: rest)

/-- What counts of a tag: the octets before the first zero. -/
def significantOctets (octets : Octets) : Octets :=
  octets.takeWhile (· != 0)

/-- Reads a part of a tag that may not be empty. -/
def readTagText? (bracketed : Bool) (glyphs : List Glyph) : Option (Octets × List Glyph) := do
  let (octets, rest) ← readTagOctets bracketed 0 glyphs
  if octets = [] then none else return (significantOctets octets, rest)

/-- The octets of characters below 128. -/
def plainOctets (text : List Char) : Octets :=
  text.map fun char => UInt8.ofNat char.toNat

/-- Reads a tag after its exclamation mark: in brackets, with a handle, or by itself. -/
def readTag? (flow : Bool) (glyphs : List Glyph) : Option (Token × List Glyph) := do
  let (token, rest) ←
    if Glyph.startsWith '<' glyphs then do
      let (suffix, rest) ← readTagText? true (glyphs.drop 1)
      if Glyph.startsWith '>' rest then some (Token.tag [] suffix, rest.drop 1) else none
    else do
      let (name, rest) := Glyph.spanChars isNameChar glyphs
      if Glyph.startsWith '!' rest then
        let (suffix, rest) ← readTagText? false (rest.drop 1)
        some (Token.tag ('!' :: name ++ ['!']) suffix, rest)
      else
        let (octets, rest) ← readTagOctets false 0 rest
        let suffix := significantOctets (plainOctets name ++ octets)
        some (if suffix = [] then Token.tag [] [0x21] else Token.tag ['!'] suffix, rest)
  if Glyph.atWordEnd rest ∨ (flow ∧ Glyph.startsWith ',' rest) then some (token, rest) else none

/-- Reads a number of up to nine digits. -/
def readVersionNumber? (glyphs : List Glyph) : Option (Nat × List Glyph) :=
  let (digits, rest) := Glyph.spanChars Char.isDigit glyphs
  if digits = [] ∨ 9 < digits.length then none
  else some (digits.foldl (fun value digit => 10 * value + (digit.toNat - '0'.toNat)) 0, rest)

/-- Reads the version of the format, which has to be 1.1 or 1.2. -/
def readVersion? (glyphs : List Glyph) : Option (Token × List Glyph) := do
  let (major, rest) ← readVersionNumber? glyphs
  if Glyph.startsWith '.' rest then
    let (minor, rest) ← readVersionNumber? (rest.drop 1)
    if major = 1 ∧ (minor = 1 ∨ minor = 2) then some (.version, rest) else none
  else none

/-- Reads a handle and what it stands for. -/
def readShorthand? (glyphs : List Glyph) : Option (Token × List Glyph) := do
  if Glyph.startsWith '!' glyphs then
    let (name, rest) := Glyph.spanChars isNameChar (glyphs.drop 1)
    let (handle, rest) ←
      if Glyph.startsWith '!' rest then some ('!' :: name ++ ['!'], rest.drop 1)
      else if name = [] then some (['!'], rest)
      else none
    let afterBlanks := Glyph.skipBlanks rest
    if afterBlanks.length = rest.length then none
    else
      let (expansion, rest) ← readTagText? true afterBlanks
      if Glyph.atWordEnd rest then some (.shorthand handle expansion, rest) else none
  else none

/-- Reads a directive after its percent sign, up to the end of its line. -/
def readDirective? (glyphs : List Glyph) : Option (Token × List Glyph) := do
  let (name, rest) := Glyph.spanChars isNameChar glyphs
  if Glyph.atWordEnd rest then
    let rest := Glyph.skipBlanks rest
    let (token, rest) ←
      if name = ['Y', 'A', 'M', 'L'] then readVersion? rest
      else if name = ['T', 'A', 'G'] then readShorthand? rest
      else none
    return (token, ← Glyph.nextLine? rest)
  else none

end CertAuthority.Yaml
