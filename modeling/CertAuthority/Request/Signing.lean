import CertAuthority.Extension.BasicConstraints
import CertAuthority.Host.Classify
import CertAuthority.Key.Stored
import CertAuthority.Request.Basic
import CertAuthority.X509.CertificationRequest

/-!
# Signed requests

A request can be handed to another authority as a certification request, signed
with the key that is to be certified.  The hosts are asked for as alternative
names, before any further extensions.
-/

namespace CertAuthority

open X509 (CertificationRequest CertificationRequestInfo Extension RequestAttribute)

/-- The extension that asks for the certificate of an authority. -/
def caExtension : Extension :=
  ⟨BasicConstraints.oid, true, BasicConstraints.encode ⟨true, none⟩⟩

/-- The extension of alternative names, if there are any. -/
def Hosts.toExtensions (hosts : Hosts) : Except Error (List Extension) :=
  if hosts.isEmpty then .ok []
  else do return [← Extension.ofValue hosts false]

namespace CertificateRequest

/-- The signed part of the certification request of a key. -/
def signingInfo (request : CertificateRequest) (key : Key) (extra : List Extension) :
    Except Error CertificationRequestInfo := do
  let extensions := (← (Hosts.classify request.hosts).toExtensions) ++ extra
  return { subject := request.subject.toName
           publicKey := key.publicKeyInfo
           requestAttributes :=
             if extensions.isEmpty then [] else [RequestAttribute.ofExtensions extensions] }

/-- The certification request of a key, signed with it. -/
def toSigned (request : CertificateRequest) (key : Key) (extra : List Extension) :
    Operation CertificationRequest := do
  let info ← Operation.ofExcept (request.signingInfo key extra)
  let signature ← key.sign info.encode
  let algorithm ← key.takeAlgorithm
  return ⟨info, algorithm.identifier, Der.BitString.ofOctets signature⟩

end CertificateRequest

/-- The file of a certification request. -/
def X509.CertificationRequest.file (request : CertificationRequest) : Octets :=
  Pem.encode "CERTIFICATE REQUEST" request.encode

end CertAuthority
