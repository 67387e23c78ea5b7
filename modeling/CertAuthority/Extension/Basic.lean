import CertAuthority.Error
import CertAuthority.X509.Certificate

/-!
# Types of extensions

A type of extension has an identifier and a form as octets.  `ExtensionValue`
gathers what is known of one type; with it, a value becomes an extension, and
the first extension of a type is found in a certificate and read.
-/

namespace CertAuthority

/-- What is known of a type of extension. -/
class ExtensionValue (α : Type) where
  /-- The identifier of the type. -/
  oid : Der.Oid
  /-- The octets of a value. -/
  encode : α → Except Error Octets
  /-- The value of octets. -/
  decode : Octets → Except Error α

namespace X509

/-- The extension that carries a value. -/
def Extension.ofValue {α : Type} [ExtensionValue α] (value : α) (critical : Bool) :
    Except Error Extension := do
  return ⟨ExtensionValue.oid α, critical, ← ExtensionValue.encode value⟩

/-- The value of the first extension of a type, if the certificate has one. -/
def Certificate.extensionValue (α : Type) [ExtensionValue α] (certificate : Certificate) :
    Except Error (Option α) :=
  match certificate.extension? (ExtensionValue.oid α) with
  | none => .ok none
  | some extension => (ExtensionValue.decode extension.value).map some

end X509

end CertAuthority
