import CertAuthority.Der.Element

/-!
# Object identifiers

An object identifier is kept as the octets of its element.  The first octet
holds two arcs; every later arc is a run of octets with seven bits each, all
but the last with the high bit set, of at most five octets.

`ofContent?` reads the octets, `ofString?` the dotted text, and `toString`
writes that text.
-/

namespace CertAuthority.Der

/-- Splits octets into runs that end with a clear high bit; the last run must end. -/
def arcRuns : Octets → Option (List Octets)
  | [] => some []
  | octet :: rest => do
      let runs ← arcRuns rest
      if octet < 0x80 then return [octet] :: runs
      else
        match runs with
        | [] => none
        | run :: others => return (octet :: run) :: others

/-- Whether a run is short enough: only the low half of a fifth octet may be used. -/
def isArcRun (run : Octets) : Bool :=
  run.length ≤ 5 && (run.drop 4).all (· < 0x10)

/-- Whether octets hold the arcs of an object identifier. -/
def isOidContent : Octets → Bool
  | [] => false
  | first :: rest =>
      first < 120 && 1 ≤ rest.length && rest.length ≤ 38 &&
        match arcRuns rest with
        | some runs => runs.all isArcRun
        | none => false

/-- An object identifier. -/
structure Oid where
  content : Octets
  wellFormed : isOidContent content = true
deriving DecidableEq

namespace Oid

/-- Whether an identifier can be read; those of two octets are too short for that. -/
def isReadable (oid : Oid) : Bool :=
  3 ≤ oid.content.length

/-- Reads the content of an element. -/
def ofContent? (content : Octets) : Option Oid :=
  if h : isOidContent content = true then
    let oid : Oid := ⟨content, h⟩
    if oid.isReadable then some oid else none
  else none

/-- The value of a run of seven-bit digits, modulo the size of a 32-bit word. -/
def arcValue (run : Octets) : Nat :=
  run.foldl (fun value octet => (value * 128 + octet.toNat % 128) % 0x100000000) 0

/-- The arcs of an object identifier. -/
def arcs (oid : Oid) : List Nat :=
  match oid.content with
  | [] => []
  | first :: rest =>
      first.toNat / 40 :: first.toNat % 40 :: ((arcRuns rest).getD []).map arcValue

/-- The arcs in decimal, joined by dots. -/
def toString (oid : Oid) : String :=
  ".".intercalate (oid.arcs.map Nat.repr)

/-- Seven-bit digits of a number of 32 bits, the last with a clear high bit. -/
def arcOctets (value : Nat) : Octets :=
  let later := (List.range 5).reverse.filter fun place => place ≠ 0 ∧ Nat.pow 128 place ≤ value
  later.map (fun place => UInt8.ofNat (0x80 + value / Nat.pow 128 place % 128)) ++
    [UInt8.ofNat (value % 128)]

/-- The identifier with the given arcs, of which there must be three or more. -/
def ofArcs? : List Nat → Option Oid
  | first :: second :: rest =>
      let content := UInt8.ofNat (first * 40 + second) :: rest.flatMap arcOctets
      if first ≤ 2 ∧ second ≤ 39 ∧ rest.all (· < 0x100000000) then
        if h : isOidContent content = true then some ⟨content, h⟩ else none
      else none
  | _ => none

/-- The decimal digits of a text separated by single dots; two dots in a row enclose zero. -/
def dottedArcs? : (arc : Nat) → List Char → Option (List Nat)
  | arc, [] => some [arc]
  | arc, char :: rest =>
      if '0' ≤ char ∧ char ≤ '9' then dottedArcs? (arc * 10 + (char.toNat - '0'.toNat)) rest
      else if char = '.' ∧ rest ≠ [] then (dottedArcs? 0 rest).map (arc :: ·)
      else none

/-- Reads the dotted text of an identifier. -/
def ofString? (text : String) : Option Oid :=
  match text.toList with
  | [] => none
  | first :: rest =>
      if first = '.' then none else (dottedArcs? 0 (first :: rest)).bind ofArcs?

/-- The identifier as octets. -/
def encode (oid : Oid) : Octets :=
  Der.encode Tag.objectIdentifier oid.content

/-- Reads an identifier. -/
def decode : Decoder Oid := fun octets => do
  let (content, rest) ← decodeTagged Tag.objectIdentifier octets
  let oid ← ofContent? content
  return (oid, rest)

end Oid

end CertAuthority.Der
