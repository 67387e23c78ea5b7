import CertAuthority.Base64
import CertAuthority.Calendar
import CertAuthority.Curve.Basic
import CertAuthority.Curve.Nist
import CertAuthority.Curve.PointEncoding
import CertAuthority.Der.Element
import CertAuthority.Der.Oid
import CertAuthority.Der.Set
import CertAuthority.Der.Value
import CertAuthority.DistinguishedName
import CertAuthority.Duration
import CertAuthority.Ecdsa.Basic
import CertAuthority.Ecdsa.Encoding
import CertAuthority.Error
import CertAuthority.Extension.Basic
import CertAuthority.Extension.BasicConstraints
import CertAuthority.Extension.ExtendedKeyUsage
import CertAuthority.Extension.KeyIdentifier
import CertAuthority.Extension.KeyUsage
import CertAuthority.Extension.SubjectAltName
import CertAuthority.Hash.Hmac
import CertAuthority.Hash.Sha1
import CertAuthority.Hash.Sha256
import CertAuthority.Hash.Sha512
import CertAuthority.Host.Classify
import CertAuthority.Host.Domain.Basic
import CertAuthority.Host.Domain.Composition
import CertAuthority.Host.Domain.CompositionTable
import CertAuthority.Host.Domain.Direction
import CertAuthority.Host.Domain.Folding
import CertAuthority.Host.Domain.FoldingTable
import CertAuthority.Host.Domain.Joining
import CertAuthority.Host.Domain.Label
import CertAuthority.Host.Domain.Punycode
import CertAuthority.Host.Email
import CertAuthority.Host.IpAddress
import CertAuthority.Host.Uri
import CertAuthority.Instant
import CertAuthority.Issuance.Issuer
import CertAuthority.Issuance.Material
import CertAuthority.Issuance.Template
import CertAuthority.Key.Algorithm
import CertAuthority.Key.Container
import CertAuthority.Key.Generate
import CertAuthority.Key.Pair
import CertAuthority.Key.Policy
import CertAuthority.Key.Stored
import CertAuthority.Modular
import CertAuthority.Octets
import CertAuthority.Operation
import CertAuthority.Pem.Block
import CertAuthority.Pem.Search
import CertAuthority.Pem.Strict
import CertAuthority.Proofs.Base64
import CertAuthority.Proofs.Calendar
import CertAuthority.Proofs.Curve.Generator
import CertAuthority.Proofs.Curve.Group
import CertAuthority.Proofs.Curve.PointEncoding
import CertAuthority.Proofs.Curve.Primes
import CertAuthority.Proofs.DeclaredKey
import CertAuthority.Proofs.Der.Condition
import CertAuthority.Proofs.Der.Element
import CertAuthority.Proofs.Der.Exact
import CertAuthority.Proofs.Der.Identifier
import CertAuthority.Proofs.Der.Value
import CertAuthority.Proofs.DistinguishedName
import CertAuthority.Proofs.Ecdsa.Signature
import CertAuthority.Proofs.Extension.AlternativeNames
import CertAuthority.Proofs.Extension.Hosts
import CertAuthority.Proofs.Extension.KeyPurposes
import CertAuthority.Proofs.Extension.Values
import CertAuthority.Proofs.Hash.Digest
import CertAuthority.Proofs.Host.AddressOctets
import CertAuthority.Proofs.Host.AddressText
import CertAuthority.Proofs.Host.Classification
import CertAuthority.Proofs.Host.Email
import CertAuthority.Proofs.Host.Kinds
import CertAuthority.Proofs.Host.Mailbox
import CertAuthority.Proofs.Issuance.Authorities
import CertAuthority.Proofs.Issuance.Extensions
import CertAuthority.Proofs.Issuance.Failures
import CertAuthority.Proofs.Issuance.FirstFailure
import CertAuthority.Proofs.Issuance.Issue
import CertAuthority.Proofs.Issuance.Lifetime
import CertAuthority.Proofs.Issuance.NamedUsages
import CertAuthority.Proofs.Issuance.Run
import CertAuthority.Proofs.Issuance.Stages
import CertAuthority.Proofs.Issuance.Template
import CertAuthority.Proofs.Issuance.TrustChain
import CertAuthority.Proofs.Issuance.Window
import CertAuthority.Proofs.Key.Bare
import CertAuthority.Proofs.Key.Consistency
import CertAuthority.Proofs.Key.Container
import CertAuthority.Proofs.Key.EllipticCurve
import CertAuthority.Proofs.Key.Generate
import CertAuthority.Proofs.Key.Pair
import CertAuthority.Proofs.Key.Provenance
import CertAuthority.Proofs.Key.RsaSizes
import CertAuthority.Proofs.Key.Wrapped
import CertAuthority.Proofs.Modular
import CertAuthority.Proofs.Octets
import CertAuthority.Proofs.Operation
import CertAuthority.Proofs.Pairing
import CertAuthority.Proofs.Pem.Search
import CertAuthority.Proofs.Pem.Strict
import CertAuthority.Proofs.Primality.Certificate
import CertAuthority.Proofs.Primality.Criteria
import CertAuthority.Proofs.Request.Checks
import CertAuthority.Proofs.Request.Signing
import CertAuthority.Proofs.Request.Subject
import CertAuthority.Proofs.Rsa.Generate
import CertAuthority.Proofs.Rsa.Key
import CertAuthority.Proofs.Rsa.Signature
import CertAuthority.Proofs.SignedOctets
import CertAuthority.Proofs.SupportedAlgorithms
import CertAuthority.Proofs.Text.Blank
import CertAuthority.Proofs.Text.Utf8
import CertAuthority.Proofs.TextBlocks
import CertAuthority.Proofs.Usage
import CertAuthority.Proofs.Validity
import CertAuthority.Proofs.Verification
import CertAuthority.Proofs.X509.Certificate
import CertAuthority.Proofs.X509.CertificationRequest
import CertAuthority.Proofs.X509.Distinguished
import CertAuthority.Proofs.X509.Fields
import CertAuthority.Proofs.X509.HolderName
import CertAuthority.Proofs.X509.Reader
import CertAuthority.Proofs.X509.Time
import CertAuthority.Request.Basic
import CertAuthority.Request.Document
import CertAuthority.Request.Parse
import CertAuthority.Request.Signing
import CertAuthority.Rsa.Generate
import CertAuthority.Rsa.Key
import CertAuthority.Rsa.Signature
import CertAuthority.SignatureAlgorithm
import CertAuthority.Text.Blank
import CertAuthority.Text.Hidden
import CertAuthority.Text.Quoted
import CertAuthority.Text.Utf8
import CertAuthority.Usage
import CertAuthority.Validity
import CertAuthority.Verification
import CertAuthority.X509.AlgorithmIdentifier
import CertAuthority.X509.Certificate
import CertAuthority.X509.CertificationRequest
import CertAuthority.X509.Extension
import CertAuthority.X509.GeneralName
import CertAuthority.X509.Name
import CertAuthority.X509.PublicKeyInfo
import CertAuthority.X509.Time
import CertAuthority.Yaml.Document
import CertAuthority.Yaml.Glyph
import CertAuthority.Yaml.Integer
import CertAuthority.Yaml.Layout
import CertAuthority.Yaml.Lexing
import CertAuthority.Yaml.Node
import CertAuthority.Yaml.Property
import CertAuthority.Yaml.Reading
import CertAuthority.Yaml.Scalar.Block
import CertAuthority.Yaml.Scalar.Gap
import CertAuthority.Yaml.Scalar.Plain
import CertAuthority.Yaml.Scalar.Quoted
import CertAuthority.Yaml.Token
import CertAuthority.Yaml.Tree
import CertAuthority.Yaml.TreeReader
