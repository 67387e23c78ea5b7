import CertAuthority.Extension.KeyIdentifier
import CertAuthority.Hash.Sha1
import CertAuthority.Request.Signing
import CertAuthority.Usage
import CertAuthority.Validity

/-!
# Certificate templates

A template is everything about a certificate but who signs it.  It is built
from a request and the key to be certified, and becomes the signed part of a
certificate once the issuer is known.
-/

namespace CertAuthority

open X509 (Extension Name PublicKeyInfo SerialNumber TbsCertificate)

/-- A certificate without its issuer. -/
structure CertificateTemplate where
  serialNumber : UInt64
  subject : DistinguishedName
  publicKey : PublicKeyInfo
  hosts : Hosts
  validity : Validity
  usage : Usage
  /-- Whether to say if the holder is an authority. -/
  statesConstraints : Bool
  isCa : Bool
deriving DecidableEq

namespace CertificateTemplate

/-- The life of certificates for which none is asked: ten years of 365 days. -/
def defaultLifetime : Duration := Duration.ofSeconds (10 * 8760 * 3600)

/-- How far the start of a period is set back for clocks that are behind. -/
def clockSkew : Duration := Duration.ofSeconds (5 * 60)

/-- The life that is asked for, the default for none. -/
def resolveLifetime (lifetime : Duration) : Duration :=
  if lifetime.nanoseconds = 0 then defaultLifetime else lifetime

/-- The period of a certificate made now with a given life. -/
def validityFrom (now : Instant) (lifetime : Duration) : Except Error Validity :=
  let lifetime := resolveLifetime lifetime
  if lifetime.fitsWord then Validity.startingAt now clockSkew lifetime
  else .error (.expirationOutOfRange lifetime)

/-- The serial number of random octets, with a clear highest bit. -/
def serialOfEntropy (octets : Octets) : UInt64 :=
  UInt64.ofNat (Octets.toNat octets) >>> 1

/-- Builds a template with uses and purposes that were looked up. -/
def buildWith (request : CertificateRequest) (key : Key) (lifetime : Duration) (usage : Usage)
    (isCa : Bool) (now : Instant) : Operation CertificateTemplate := do
  let validity ← Operation.ofExcept (validityFrom now lifetime)
  let serialNumber := serialOfEntropy (← Operation.draw 8)
  return { serialNumber
           subject := request.subject
           publicKey := key.publicKeyInfo
           hosts := Hosts.classify request.hosts
           validity
           usage
           statesConstraints := true
           isCa }

/-- Builds a template for a request and a key. -/
def build (request : CertificateRequest) (key : Key) (lifetime : Duration) (usages : List String)
    (isCa : Bool) (now : Instant) : Operation CertificateTemplate := do
  let usage ← Usage.resolve usages
  buildWith request key lifetime usage isCa now

/-- The identifier of a public key: a digest of its bits. -/
def keyIdentifier (key : PublicKeyInfo) : Octets :=
  Hash.Sha1.sha1 key.key.octets

/-- The identifier of the certified key. -/
def subjectKeyId (template : CertificateTemplate) : Octets :=
  keyIdentifier template.publicKey

/-- An extension, unless there is nothing to say. -/
def extensionIf (wanted : Bool) {α : Type} [ExtensionValue α] (value : α) (critical : Bool) :
    Except Error (List Extension) :=
  if wanted then do return [← Extension.ofValue value critical] else .ok []

/-- The extensions in the order in which they are written. -/
def extensions (template : CertificateTemplate) (authorityKeyId : Option Octets) :
    Except Error (List Extension) := do
  let usage := template.usage
  let keyUsage ← extensionIf (!usage.keyUsage.isEmpty) usage.keyUsage true
  let purposes ← extensionIf (!usage.purposes.isEmpty) (ExtendedKeyUsage.mk usage.purposes) false
  let constraints ← extensionIf template.statesConstraints
    (BasicConstraints.mk template.isCa none) true
  let subjectKeyId ← extensionIf template.isCa
    (SubjectKeyIdentifier.mk template.subjectKeyId) false
  let authorityKeyId ← extensionIf authorityKeyId.isSome
    (AuthorityKeyIdentifier.mk (authorityKeyId.getD [])) false
  let hosts ← template.hosts.toExtensions
  return keyUsage ++ purposes ++ constraints ++ subjectKeyId ++ authorityKeyId ++ hosts

/-- The signed part of the certificate, given what is known of the issuer. -/
def toTbs (template : CertificateTemplate) (issuer : Name) (algorithm : SignatureAlgorithm)
    (authorityKeyId : Option Octets) : Except Error TbsCertificate := do
  let extensions ← template.extensions authorityKeyId
  let validity ← template.validity.toPeriod
  return { version := .v3
           serialNumber := SerialNumber.ofNat template.serialNumber.toNat
           signatureAlgorithm := algorithm.identifier
           issuer
           validity
           subject := template.subject.toName
           publicKey := template.publicKey
           issuerId := none
           subjectId := none
           extensions := some extensions }

end CertificateTemplate

end CertAuthority
