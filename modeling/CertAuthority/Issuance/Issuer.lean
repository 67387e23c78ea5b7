import CertAuthority.Issuance.Template
import CertAuthority.Pem.Strict
import CertAuthority.Verification

/-!
# Issuers

An issuer signs templates.  It is either the subject itself or an authority,
which is a certificate together with a private key.  `Authority.pair` makes one
of a key that the certificate certifies only; an authority whose key is another
signs templates all the same.
-/

namespace CertAuthority

open X509 (Certificate Name)

namespace X509.Certificate

/-- The label of files of certificates. -/
def label : String := "CERTIFICATE"

/-- The file of a certificate. -/
def file (certificate : Certificate) : Octets :=
  Pem.encodeFile label certificate.encode

/-- Reads a certificate that fills the octets. -/
def ofOctets (octets : Octets) : Except Error Certificate :=
  orError .malformedCertificate (Der.complete decode octets)

/-- Reads a certificate from a file; octets after it within the block are passed over. -/
def ofFile? (file : Octets) : Option Certificate := do
  let (certificate, _) ← decode (← Pem.decode? label file)
  return certificate

/-- Reads a certificate from a file. -/
def ofFile (file : Octets) : Except Error Certificate :=
  orError .malformedCertificate (ofFile? file)

end X509.Certificate

/-- A certificate with a private key. -/
structure Authority where
  certificate : Certificate
  key : Key
deriving DecidableEq

namespace Authority

/-- Whether the key is the one that the certificate certifies. -/
def IsCertified (holder : Authority) : Prop :=
  holder.key.publicKeyInfo = holder.certificate.tbs.publicKey

/-- Pairs a certificate with a key, which has to be the one it certifies. -/
def pair (certificate : Certificate) (key : Key) : Except Error Authority :=
  if key.publicKeyInfo = certificate.tbs.publicKey then .ok ⟨certificate, key⟩
  else .error .keyMismatch

/-- Reads the certificate and the key of an authority from their files. -/
def load (certificateFile keyFile : Octets) : Operation Authority := do
  let certificate ← Operation.ofOption .malformedAuthority (Certificate.ofFile? certificateFile)
  let key ← Key.load keyFile
  Operation.ofExcept (pair certificate key)

end Authority

/-- Who signs a certificate. -/
inductive Issuer where
  /-- The subject, under a name, with its own key. -/
  | subject (name : Name) (key : Key)
  /-- Another holder of a certificate. -/
  | authority (holder : Authority)

namespace Issuer

/-- The name of the issuer in certificates it signs. -/
def name : Issuer → Name
  | subject name _ => name
  | authority holder => holder.certificate.tbs.subject

/-- The key the issuer signs with. -/
def key : Issuer → Key
  | subject _ key => key
  | authority holder => holder.key

/-- The identifier of that key, if the issuer has one. -/
def keyId : Issuer → Except Error (Option Octets)
  | subject _ _ => .ok none
  | authority holder => do
      let identifier ← holder.certificate.extensionValue SubjectKeyIdentifier
      return identifier.map (·.identifier)

/-- Signs a template. -/
def issue (issuer : Issuer) (template : CertificateTemplate) : Operation Certificate := do
  let algorithm ← issuer.key.takeAlgorithm
  let keyId ← Operation.ofExcept issuer.keyId
  let tbs ← Operation.ofExcept (template.toTbs issuer.name algorithm keyId)
  let signature ← issuer.key.sign tbs.encode
  Operation.report (.issuedCertificate template.serialNumber.toNat template.subject.commonName
    template.isCa)
  return ⟨tbs, algorithm.identifier, Der.BitString.ofOctets signature⟩

/-- Signing does not end the program, since there is an algorithm for every key. -/
theorem issue_eq (issuer : Issuer) (template : CertificateTemplate) :
    issuer.issue template = do
      let keyId ← Operation.ofExcept issuer.keyId
      let tbs ← Operation.ofExcept
        (template.toTbs issuer.name issuer.key.signatureAlgorithm keyId)
      let signature ← issuer.key.sign tbs.encode
      Operation.report (.issuedCertificate template.serialNumber.toNat
        template.subject.commonName template.isCa)
      return ⟨tbs, issuer.key.signatureAlgorithm.identifier, Der.BitString.ofOctets signature⟩ := by
  rw [issue, Key.takeAlgorithm_eq]
  rfl

end Issuer

end CertAuthority
