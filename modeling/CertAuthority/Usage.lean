import CertAuthority.Extension.ExtendedKeyUsage
import CertAuthority.Extension.KeyUsage
import CertAuthority.Operation

/-!
# Names of usages

Whoever asks for a certificate names the uses of its key and its purposes in
words.  A word is looked up among the uses first and then among the purposes; a
word that is in neither table is reported and passed over.
-/

namespace CertAuthority

/-- The words for uses of a key. -/
def useNames : List (String × KeyUse) :=
  [("signing", .digitalSignature), ("digital signature", .digitalSignature),
    ("content commitment", .nonRepudiation), ("key encipherment", .keyEncipherment),
    ("key agreement", .keyAgreement), ("data encipherment", .dataEncipherment),
    ("cert sign", .certificateSigning), ("crl sign", .revocationSigning),
    ("encipher only", .encipherOnly), ("decipher only", .decipherOnly)]

/-- The words for purposes of a certificate. -/
def purposeNames : List (String × Purpose) :=
  [("any", .any), ("server auth", .serverAuth), ("client auth", .clientAuth),
    ("code signing", .codeSigning), ("email protection", .emailProtection),
    ("s/mime", .emailProtection), ("ipsec end system", .ipsecEndSystem),
    ("ipsec tunnel", .ipsecTunnel), ("ipsec user", .ipsecUser),
    ("timestamping", .timeStamping), ("ocsp signing", .ocspSigning),
    ("microsoft sgc", .microsoftServerGatedCrypto),
    ("netscape sgc", .netscapeServerGatedCrypto)]

/-- Uses and purposes that were asked for. -/
structure Usage where
  keyUsage : KeyUsage
  purposes : List Purpose
deriving DecidableEq

namespace Usage

/-- Neither a use nor a purpose. -/
def none : Usage := ⟨KeyUsage.empty, []⟩

/-- Whether neither a use nor a purpose was asked for. -/
def isEmpty (usage : Usage) : Bool :=
  usage.keyUsage.isEmpty && usage.purposes.isEmpty

/-- What a word stands for: a use, a purpose or nothing. -/
inductive Meaning where
  | use (use : KeyUse)
  | purpose (purpose : Purpose)
  | unknown
deriving DecidableEq

/-- What a word stands for. -/
def meaning (name : String) : Meaning :=
  match useNames.lookup name with
  | some use => .use use
  | Option.none =>
      match purposeNames.lookup name with
      | some purpose => .purpose purpose
      | Option.none => .unknown

/-- Adds what a word stands for. -/
def add (usage : Usage) (name : String) : Usage :=
  match meaning name with
  | .use use => { usage with keyUsage := usage.keyUsage.union (KeyUsage.singleton use) }
  | .purpose purpose => { usage with purposes := usage.purposes ++ [purpose] }
  | .unknown => usage

/-- The uses and purposes that words stand for. -/
def ofNames (names : List String) : Usage :=
  names.foldl add none

/-- The words that stand for nothing. -/
def unknownNames (names : List String) : List String :=
  names.filter fun name => meaning name = .unknown

/-- Looks words up and reports those that stand for nothing. -/
def lookup (names : List String) : Operation Usage := do
  (unknownNames names).forM fun name => Operation.report (.unknownUsage name)
  return ofNames names

/-- Looks words up, of which at least one has to stand for something. -/
def resolve (names : List String) : Operation Usage := do
  let usage ← lookup names
  if usage.isEmpty then throw .noUsage else return usage

end Usage

end CertAuthority
