import CertAuthority.Pem.Block

/-!
# A file that is one block

`encodeFile` writes a file that is a block of a given kind.  The ends of lines
stand between its lines of base64, and one more stands before the last
boundary, also if there are no octets.

`decode?` reads such a file: full lines of base64, no header fields, and
nothing after the last boundary line.  Only whole lines may stand before the
first boundary, and lines may also end in a carriage return, alone or before
the newline.
-/

namespace CertAuthority.Pem

/-- Breaks characters into full lines and a last one that may be shorter, with the ends of lines
between them; `count` bounds the lines. -/
def separateLines : (count : Nat) → Octets → Octets
  | 0, octets => octets
  | count + 1, octets =>
      if octets.length ≤ lineWidth then octets
      else octets.take lineWidth ++ newline :: separateLines count (octets.drop lineWidth)

/-- Writes octets as a file that is a block of the given kind. -/
def encodeFile (label : String) (octets : Octets) : Octets :=
  let characters := Base64.encode octets
  beginMark ++ Text.utf8 label ++ dashes ++ newline ::
    (separateLines characters.length characters ++ newline ::
      (endMark ++ Text.utf8 label ++ dashes ++ [newline]))

/-- The character that may end a line or precede the one that does. -/
def carriageReturn : UInt8 := 0x0d

/-- Drops the end of a line from the front. -/
def dropLineEnd? : Octets → Option Octets
  | 0x0d :: 0x0a :: rest => some rest
  | 0x0a :: rest => some rest
  | 0x0d :: rest => some rest
  | _ => none

/-- Drops the end of a line from the back. -/
def dropLastLineEnd? (octets : Octets) : Option Octets :=
  match octets.reverse with
  | 0x0a :: 0x0d :: rest => some rest.reverse
  | 0x0a :: rest => some rest.reverse
  | 0x0d :: rest => some rest.reverse
  | _ => none

/-- Drops the lines before the first one that starts with the given octets. -/
def dropPreamble? (start : Octets) : Octets → Option Octets
  | [] => none
  | octet :: rest =>
      if octet = 0x00 then none
      else if octet = newline ∧ start.isPrefixOf rest then some rest
      else dropPreamble? start rest

/-- Drops the given octets from the front. -/
def dropFront? (start octets : Octets) : Option Octets :=
  if start.isPrefixOf octets then some (octets.drop start.length) else none

/-- Drops the given octets from the back. -/
def dropBack? (last octets : Octets) : Option Octets :=
  if last.isSuffixOf octets then some (octets.take (octets.length - last.length)) else none

/-- Joins lines, all full but the last; `count` bounds how many there are. -/
def joinLines? : (count : Nat) → Octets → Option Octets
  | 0, octets => if octets.length ≤ lineWidth then some octets else none
  | count + 1, octets =>
      if octets.length ≤ lineWidth then some octets
      else do
        let rest ← dropLineEnd? (octets.drop lineWidth)
        return octets.take lineWidth ++ (← joinLines? count rest)

/-- The octets of the block that a file is. -/
def decode? (label : String) (file : Octets) : Option Octets := do
  let start := beginMark ++ Text.utf8 label ++ dashes
  let block ← if start.isPrefixOf file then some file else dropPreamble? start file
  let content ← dropLineEnd? (← dropFront? start block)
  let body ← dropBack? (endMark ++ Text.utf8 label ++ dashes)
    ((dropLastLineEnd? content).getD content)
  let characters ← dropLastLineEnd? body
  Base64.decode? (← joinLines? characters.length characters)

end CertAuthority.Pem
