import CertAuthority.Host.Domain.Basic
import CertAuthority.Text.Utf8

/-!
# Resource identifiers

An identifier begins with a scheme and a colon.  Some schemes name a place on a
network and need a host; for others two slashes begin the part that names the
host, and without them anything may follow.  `Uri.isAbsolute` says whether a
text is an identifier with a scheme of its own, the way browsers read one:
blanks around it and line ends within it do not count, and a backslash is a
slash where the scheme names a place.
-/

namespace CertAuthority.Uri

/-- What a scheme says about what follows it. -/
inductive SchemeKind where
  /-- Files, on this host or another one. -/
  | file
  /-- Places on a network. -/
  | network
  | other
deriving DecidableEq

/-- The kind of a scheme. -/
def schemeKind (scheme : String) : SchemeKind :=
  if scheme = "file" then .file
  else if ["http", "https", "ws", "wss", "ftp"].contains scheme then .network
  else .other

/-- The characters that count. -/
def significantChars (text : List Char) : List Char :=
  let isEdge (char : Char) : Bool := char.toNat ≤ 0x20
  let trimmed := ((text.dropWhile isEdge).reverse.dropWhile isEdge).reverse
  trimmed.filter fun char => char != '\t' && char != '\n' && char != '\r'

/-- Whether a character may be in a scheme, after the first letter. -/
def isSchemeChar (char : Char) : Bool :=
  char.isAlphanum || ['+', '-', '.'].contains char

/-- The scheme and what follows the colon after it. -/
def splitScheme? (chars : List Char) : Option (String × List Char) :=
  let scheme := chars.takeWhile isSchemeChar
  match chars.drop scheme.length with
  | ':' :: rest =>
      if scheme.head?.any Char.isAlpha then
        some (String.ofList (scheme.map Char.toLower), rest)
      else none
  | _ => none

/-- Whether a character is a slash in either direction. -/
def isEitherSlash (char : Char) : Bool :=
  char == '/' || char == '\\'

/-- Whether a character ends the part that names the host. -/
def endsAuthority (kind : SchemeKind) (char : Char) : Bool :=
  ['/', '?', '#'].contains char || (kind != .other && char == '\\')

/-- The value of two octets that are hexadecimal digits. -/
def hexPair? (high low : UInt8) : Option UInt8 := do
  let highValue ← Octets.hexValue? (Char.ofNat high.toNat)
  let lowValue ← Octets.hexValue? (Char.ofNat low.toNat)
  return UInt8.ofNat (16 * highValue + lowValue)

/-- Replaces what is written by number after percent signs. -/
def percentDecode : Octets → Octets
  | 0x25 :: high :: low :: rest =>
      match hexPair? high low with
      | some octet => octet :: percentDecode rest
      | none => 0x25 :: percentDecode (high :: low :: rest)
  | octet :: rest => octet :: percentDecode rest
  | [] => []

/-- Whether characters after an opening bracket are an address and a closing bracket. -/
def isBracketedAddress (chars : List Char) : Bool :=
  chars.getLast? == some ']' && (IpAddress.parseV6? chars.dropLast).isSome

/-- Whether characters are the host of a place on a network. -/
def isNetworkHost (host : List Char) : Bool :=
  match host with
  | '[' :: rest => isBracketedAddress rest
  | _ =>
      match Text.ofUtf8? (percentDecode (Text.utf8 (String.ofList host))) with
      | none => false
      | some name => Domain.isHost name.toList

/-- Whether characters are a host about which nothing is known. -/
def isOpaqueHost (host : List Char) : Bool :=
  match host with
  | '[' :: rest => isBracketedAddress rest
  | _ => !host.any "\x00\t\n\r #/:<>?@[\\]^|".toList.contains

/-- The host and the rest from a colon on that is not in brackets. -/
def splitHost : (bracketed : Bool) → List Char → List Char × List Char
  | _, [] => ([], [])
  | bracketed, char :: rest =>
      if char = ':' ∧ ¬bracketed then ([], char :: rest)
      else
        let (host, port) := splitHost (char == '[' || (bracketed && char != ']')) rest
        (char :: host, port)

/-- Whether characters are empty or a colon and a port, which may be missing. -/
def isPort : List Char → Bool
  | [] => true
  | _ :: rest =>
      let digits := rest.takeWhile Char.isDigit
      let port := digits.foldl (fun value digit => 10 * value + (digit.toNat - '0'.toNat)) 0
      port < 65536 && (rest.drop digits.length).head?.all (· == '\\')

/-- What stands in front of the last at sign, if there is one, and what follows it. -/
def splitUser (chars : List Char) : Option (List Char) × List Char :=
  let back := (chars.reverse.takeWhile (· != '@')).reverse
  if back.length = chars.length then (none, chars)
  else (some (chars.take (chars.length - back.length - 1)), back)

/-- Whether characters name a user, a host and a port.  `last` if nothing follows them. -/
def isAuthority (kind : SchemeKind) (last : Bool) (chars : List Char) : Bool :=
  let (user, place) := splitUser chars
  let (host, port) := splitHost false place
  let named := user.any fun user => user != [] && user != [':']
  if host = [] then
    kind == .other && port.isEmpty && !named && !(user == some [] && !last)
  else
    (if kind = .other then isOpaqueHost host else isNetworkHost host) && isPort port

/-- Whether what follows two slashes names a host as it should. -/
def hasAuthority (kind : SchemeKind) (rest : List Char) : Bool :=
  let authority := rest.takeWhile (!endsAuthority kind ·)
  isAuthority kind (authority.length = rest.length) authority

/-- Whether characters are a letter of a drive. -/
def isDriveLetter : List Char → Bool
  | [letter, mark] => letter.isAlpha && (mark == ':' || mark == '|')
  | _ => false

/-- Whether what follows two slashes names no host, a drive or a host. -/
def hasFileHost (rest : List Char) : Bool :=
  let host := rest.takeWhile (!endsAuthority .file ·)
  host.isEmpty || isDriveLetter host || isNetworkHost host

/-- Whether a text is an identifier with a scheme. -/
def isAbsolute (text : String) : Bool :=
  match splitScheme? (significantChars text.toList) with
  | none => false
  | some (scheme, rest) =>
      match schemeKind scheme with
      | .network => hasAuthority .network (rest.dropWhile isEitherSlash)
      | .file =>
          match rest with
          | first :: second :: path =>
              !(isEitherSlash first && isEitherSlash second) || hasFileHost path
          | _ => true
      | .other =>
          match rest with
          | '/' :: '/' :: path => hasAuthority .other path
          | _ => true

end CertAuthority.Uri
