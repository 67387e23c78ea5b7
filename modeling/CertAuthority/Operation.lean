import CertAuthority.Error

/-!
# Operations

Making keys and certificates consumes random octets and reports events.  An
`Operation` does both and may fail with an `Error`; what was consumed and
reported before a failure stays so.  Operations that need neither are plain
functions into `Except Error`.
-/

namespace CertAuthority

/-- A supply of random octets, of which some are used up. -/
structure Entropy where
  stream : Nat → UInt8
  used : Nat

namespace Entropy

/-- The next octets and the supply that is left. -/
def take (count : Nat) (entropy : Entropy) : Octets × Entropy :=
  ((List.range count).map fun place => entropy.stream (entropy.used + place),
    { entropy with used := entropy.used + count })

end Entropy

/-- The encodings private keys are stored in. -/
inductive KeyContainer where
  /-- The algorithm and a private key of any kind. -/
  | pkcs8
  /-- The numbers of an RSA key. -/
  | pkcs1
  /-- The scalar of an elliptic-curve key. -/
  | sec1
deriving DecidableEq

/-- The name of an encoding. -/
def KeyContainer.name : KeyContainer → String
  | pkcs8 => "PKCS#8"
  | pkcs1 => "PKCS#1"
  | sec1 => "SEC1"

/-- What is reported while an operation runs. -/
inductive Event where
  | unknownUsage (name : String)
  | loadedKey (container : KeyContainer)
  | generatingKey (algorithm : KeyAlgorithm) (size : Nat)
  | issuedCertificate (serial : Nat) (commonName : String) (isCa : Bool)
deriving DecidableEq

/-- How much an event matters. -/
inductive EventLevel where
  | debug
  | info
  | warn
deriving DecidableEq

namespace Event

/-- How much an event matters. -/
def level : Event → EventLevel
  | unknownUsage _ => .warn
  | loadedKey _ => .debug
  | generatingKey _ _ => .debug
  | issuedCertificate _ _ _ => .info

/-- What happened. -/
def message : Event → String
  | unknownUsage _ => "ignoring unrecognized usage"
  | loadedKey container => "loaded " ++ container.name ++ " private key"
  | generatingKey _ _ => "generating key"
  | issuedCertificate _ _ _ => "issued certificate"

/-- The particulars of an event, in the order of their names. -/
def fields : Event → List (String × String)
  | unknownUsage name => [("usage", name)]
  | loadedKey _ => []
  | generatingKey algorithm size => [("algorithm", algorithm.name), ("size", Nat.repr size)]
  | issuedCertificate serial commonName isCa =>
      [("common_name", commonName), ("is_ca", if isCa then "true" else "false"),
        ("serial", Nat.repr serial)]

end Event

/-- What operations change: the supply of random octets and the events reported so far. -/
structure Environment where
  entropy : Entropy
  events : List Event

/-- A computation that may use randomness, report events and fail. -/
abbrev Operation := EStateM Error Environment

namespace Operation

/-- Draws random octets. -/
def draw (count : Nat) : Operation Octets :=
  modifyGet fun environment =>
    let (octets, entropy) := environment.entropy.take count
    (octets, { environment with entropy })

/-- Reports an event. -/
def report (event : Event) : Operation Unit :=
  modify fun environment => { environment with events := environment.events ++ [event] }

/-- Continues with the value of a computation that needs neither randomness nor events. -/
def ofExcept {α : Type} : Except Error α → Operation α
  | .ok value => pure value
  | .error error => throw error

/-- Continues with a value, if there is one, or fails. -/
def ofOption {α : Type} (error : Error) : Option α → Operation α
  | some value => pure value
  | none => throw error

end Operation

end CertAuthority
