import CertAuthority.Duration
import CertAuthority.Key.Algorithm
import CertAuthority.Text.Quoted

/-!
# Errors

What can go wrong, by cause.  Every cause belongs to one of four kinds, and
`Error.message` gives its text: the lead of the kind and the detail of the
cause.

One cause is no error but the end of the program: a size of keys on a curve for
which there is neither a curve nor a signature algorithm.  It never occurs.
-/

namespace CertAuthority

/-- The kinds of errors. -/
inductive ErrorKind where
  /-- A request is not well-formed. -/
  | parse
  /-- What is asked for is not supported. -/
  | validation
  /-- A key cannot be made, or a signature cannot be made or is wrong. -/
  | crypto
  /-- Octets are not the form of what they should be, or there is no such form. -/
  | encoding
deriving DecidableEq

/-- The text before the detail of an error. -/
def ErrorKind.lead : ErrorKind → String
  | parse => "Failed to parse certificate request: "
  | validation => "Invalid input: "
  | crypto => "Cryptographic failure: "
  | encoding => "Encoding error: "

/-- The causes of errors. -/
inductive Error where
  | malformedRequest
  | unknownKeyAlgorithm (name : String)
  | negativeKeySize (size : Int)
  | invalidKeySize (algorithm : KeyAlgorithm) (size : Nat)
  | noSubject
  | noUsage
  | notAscii (name : String)
  | expirationOutOfRange (expiration : Duration)
  | keyMismatch
  | wrongKeyFor (algorithm : SignatureAlgorithm)
  /-- The program ends here. -/
  | unexpectedKeySize (size : Nat)
  | keyGenerationFailed
  | signingFailed
  | malformedPoint
  | invalidSignature
  | malformedBlock
  | malformedCertificate
  | malformedAuthority
  | malformedName
  | malformedExtension
  | malformedPublicKey
  | malformedPrivateKey
  | unwritableTime
  | overlong
  | unsupportedGeneralName
  | addressSize (octets : Nat)
  | unsupportedPurpose (oid : Der.Oid)
  | unsupportedSignature (oid : Der.Oid)
deriving DecidableEq

namespace Error

/-- The kind a cause belongs to. -/
def kind : Error → ErrorKind
  | malformedRequest => .parse
  | unknownKeyAlgorithm _ | negativeKeySize _ | invalidKeySize _ _ | noSubject | noUsage
  | notAscii _ | expirationOutOfRange _ | keyMismatch => .validation
  | wrongKeyFor _ | unexpectedKeySize _ | keyGenerationFailed | signingFailed | malformedPoint
  | invalidSignature => .crypto
  | malformedBlock | malformedCertificate | malformedAuthority | malformedName
  | malformedExtension | malformedPublicKey | malformedPrivateKey | unwritableTime | overlong
  | unsupportedGeneralName | addressSize _ | unsupportedPurpose _
  | unsupportedSignature _ => .encoding

/-- What a size has to be, in the text for one that is not. -/
def sizeRule : KeyAlgorithm → String
  | .ecdsa => "either 256, 384 or 521"
  | .rsa =>
      "between " ++ Nat.repr KeyAlgorithm.minRsaSize ++ " and " ++ Nat.repr KeyAlgorithm.maxRsaSize

/-- The text that is particular to a cause. -/
def detail : Error → String
  | malformedRequest => "not a request document"
  | unknownKeyAlgorithm name => "unknown key type: " ++ name
  | negativeKeySize size => "invalid key size " ++ Int.repr size
  | invalidKeySize algorithm size =>
      "invalid " ++ algorithm.name ++ " key size " ++ Nat.repr size ++ " - key size must be " ++
        sizeRule algorithm
  | noSubject => "no subject information provided"
  | noUsage => "no key usage(s) specified"
  | notAscii name => Text.quote name ++ " cannot be encoded as an IA5String"
  | expirationOutOfRange expiration =>
      "certificate expiration " ++ expiration.toString ++ " is out of range"
  | keyMismatch => "private key does not match the CA certificate"
  | wrongKeyFor algorithm => algorithm.name ++ " cannot be produced by this key"
  | unexpectedKeySize size => "unexpected ecdsa key size " ++ Nat.repr size
  | keyGenerationFailed => "no key was found"
  | signingFailed => "the key cannot sign"
  | malformedPoint => "not a point of the curve"
  | invalidSignature => "the signature is wrong"
  | malformedBlock => "not a text block"
  | malformedCertificate => "not a certificate"
  | malformedAuthority => "cannot parse CA certificate: not a certificate"
  | malformedName => "not a name"
  | malformedExtension => "not an extension of this type"
  | malformedPublicKey => "not a public key"
  | malformedPrivateKey => "cannot parse private key"
  | unwritableTime => "a time cannot be written"
  | overlong => "too long to be written"
  | unsupportedGeneralName => "Unsupported general name type"
  | addressSize octets => "invalid IP address in SAN: " ++ Nat.repr octets
  | unsupportedPurpose oid => "Unsupported extended key usage option " ++ oid.toString
  | unsupportedSignature oid => "unsupported signature algorithm " ++ oid.toString

/-- The text of an error. -/
def message (error : Error) : String :=
  error.kind.lead ++ error.detail

end Error

/-- The value, if there is one, or an error. -/
def orError {α : Type} (error : Error) : Option α → Except Error α
  | some value => .ok value
  | none => .error error

end CertAuthority
