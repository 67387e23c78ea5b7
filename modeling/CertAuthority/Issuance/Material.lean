import CertAuthority.Issuance.Issuer
import CertAuthority.Key.Generate
import CertAuthority.Request.Parse

/-!
# Making certificates from requests

`generateCa` makes an authority from a request document: a fresh key and a
certificate that it signs itself.  `generate` makes a certificate for a fresh
key, signed by an authority that is given by its files.
-/

namespace CertAuthority

/-- A certificate and its private key as files. -/
structure IssuedMaterial where
  certificate : Octets
  privateKey : Octets
deriving DecidableEq

namespace IssuedMaterial

/-- The uses of the keys of authorities that are made. -/
def caUsages : List String := ["cert sign", "crl sign"]

/-- The files of a certificate and a key, if the certificate is not too long to be written. -/
def ofParts (certificate : X509.Certificate) (key : Key) : Except Error IssuedMaterial :=
  if certificate.encode.length ≤ Der.maxLength then .ok ⟨certificate.file, key.file⟩
  else .error .overlong

/-- Makes a certificate that the key of its subject signs. -/
def issueSelfSigned (request : CertificateRequest) (key : Key) (lifetime : Duration)
    (now : Instant) : Operation IssuedMaterial := do
  let template ← CertificateTemplate.build request key lifetime caUsages true now
  let certificate ← (Issuer.subject template.subject.toName key).issue template
  Operation.ofExcept (ofParts certificate key)

/-- Makes an authority for a request document. -/
def generateCa (document : Octets) (lifetime : Duration) (now : Instant) :
    Operation IssuedMaterial := do
  let request ← Operation.ofExcept (CertificateRequest.parse document)
  let key ← Key.generate request.keyAlgorithm request.keySize
  issueSelfSigned request key lifetime now

/-- Makes a certificate for a request document, signed by an authority. -/
def generate (document certificateFile keyFile : Octets) (lifetime : Duration)
    (usages : List String) (now : Instant) : Operation IssuedMaterial := do
  let request ← Operation.ofExcept (CertificateRequest.parse document)
  let authority ← Authority.load certificateFile keyFile
  let usage ← Usage.resolve usages
  let key ← Key.generate request.keyAlgorithm request.keySize
  let template ← CertificateTemplate.buildWith request key lifetime usage false now
  let certificate ← (Issuer.authority authority).issue template
  Operation.ofExcept (ofParts certificate key)

end IssuedMaterial

end CertAuthority
