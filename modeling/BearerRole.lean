import BearerRole.Bearer
import BearerRole.Claim.Elevation
import BearerRole.Claim.Lookup
import BearerRole.Claim.Shape
import BearerRole.Codec.Base64
import BearerRole.Codec.Bytes
import BearerRole.Codec.FileName
import BearerRole.Codec.Utf16
import BearerRole.Codec.Utf32
import BearerRole.Codec.Utf8
import BearerRole.Construction
import BearerRole.Decimal.Binary64
import BearerRole.Decimal.Layout
import BearerRole.Decimal.Power
import BearerRole.Decimal.Rounded
import BearerRole.Decimal.Shortest
import BearerRole.Digest.Sha256
import BearerRole.Digest.Sha512
import BearerRole.Extractor
import BearerRole.Fault
import BearerRole.Files
import BearerRole.Gate.App
import BearerRole.Gate.Context
import BearerRole.Gate.Effects
import BearerRole.Gate.Requirement
import BearerRole.Gate.Response
import BearerRole.Gate.Route
import BearerRole.Json.Printer
import BearerRole.Json.Reader
import BearerRole.Key.AlgorithmIdentifier
import BearerRole.Key.Curve
import BearerRole.Key.Der
import BearerRole.Key.Domain
import BearerRole.Key.Load
import BearerRole.Key.Pem
import BearerRole.Key.PublicKey
import BearerRole.Key.Signature
import BearerRole.Log.Entry
import BearerRole.Log.Journal
import BearerRole.Log.Line
import BearerRole.Log.Place
import BearerRole.Log.Record
import BearerRole.Log.Redaction
import BearerRole.Log.Report
import BearerRole.Log.Template
import BearerRole.Proofs.Claim.Alike
import BearerRole.Proofs.Claim.Mapping
import BearerRole.Proofs.Claim.Path
import BearerRole.Proofs.Codec.Base64
import BearerRole.Proofs.Codec.FileName
import BearerRole.Proofs.Codec.Utf8
import BearerRole.Proofs.Construction
import BearerRole.Proofs.ConstructionFailure
import BearerRole.Proofs.Derivation
import BearerRole.Proofs.Elevation
import BearerRole.Proofs.FailClosed
import BearerRole.Proofs.Gate.Answer
import BearerRole.Proofs.Gate.Authorization
import BearerRole.Proofs.Gate.Decision
import BearerRole.Proofs.Gate.Denial
import BearerRole.Proofs.Gate.Middleware
import BearerRole.Proofs.Gate.Route
import BearerRole.Proofs.Gate.Source
import BearerRole.Proofs.Gate.StartUp
import BearerRole.Proofs.HeaderGrammar
import BearerRole.Proofs.Json.Encoded
import BearerRole.Proofs.Json.Kinds
import BearerRole.Proofs.Json.Number
import BearerRole.Proofs.Json.Quoted
import BearerRole.Proofs.Json.RoundTrip
import BearerRole.Proofs.Key.Der
import BearerRole.Proofs.Key.Loading
import BearerRole.Proofs.Key.Pem
import BearerRole.Proofs.Key.PublicKey
import BearerRole.Proofs.Key.Signature
import BearerRole.Proofs.Log.Redaction
import BearerRole.Proofs.Log.Secrecy
import BearerRole.Proofs.Partial
import BearerRole.Proofs.Recognition
import BearerRole.Proofs.RejectionRecord
import BearerRole.Proofs.Session.Access
import BearerRole.Proofs.Session.Caches
import BearerRole.Proofs.Session.Frozen
import BearerRole.Proofs.Session.Run
import BearerRole.Proofs.Settings.NormalForm
import BearerRole.Proofs.Settings.Sources
import BearerRole.Proofs.Text.CaseMap
import BearerRole.Proofs.Text.Cutting
import BearerRole.Proofs.Text.Numeral
import BearerRole.Proofs.Text.Trimming
import BearerRole.Proofs.Token.Acceptance
import BearerRole.Proofs.Token.Authentic
import BearerRole.Proofs.Token.Checks
import BearerRole.Proofs.Token.Decomposition
import BearerRole.Proofs.Token.Failure
import BearerRole.Proofs.Token.Form
import BearerRole.Proofs.Token.Grounds
import BearerRole.Proofs.Token.Minting
import BearerRole.Proofs.Token.Relevance
import BearerRole.Proofs.Token.Unsigned
import BearerRole.Proofs.Token.Window
import BearerRole.Request
import BearerRole.Role
import BearerRole.Session
import BearerRole.Settings.EnvFile
import BearerRole.Settings.Environment
import BearerRole.Settings.LogSettings
import BearerRole.Settings.RoleSettings
import BearerRole.Settings.Sources
import BearerRole.Text.Basic
import BearerRole.Text.Blank
import BearerRole.Text.CaseMap
import BearerRole.Text.Digit
import BearerRole.Text.Fold
import BearerRole.Text.Integer
import BearerRole.Text.Lower
import BearerRole.Text.Printable
import BearerRole.Text.Upper
import BearerRole.Token.Claims
import BearerRole.Token.Compact
import BearerRole.Token.Header
import BearerRole.Token.Reader
import BearerRole.Token.Rejection
import BearerRole.Value.Basic
import BearerRole.Value.Inspect
import BearerRole.Proofs.Log.InPlace
import BearerRole.Proofs.Settings.LogSettings
import BearerRole.Proofs.Settings.Precedence
