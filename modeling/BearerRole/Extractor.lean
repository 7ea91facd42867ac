import BearerRole.Bearer
import BearerRole.Claim.Elevation
import BearerRole.Log.Record
import BearerRole.Request
import BearerRole.Token.Reader

/-!
From a request to a role. Deriving the role of a header value takes its token, reads it, looks a claim up and
maps it; any step may end at the viewer. A token extractor does this for requests and never fails; a hook of the
host may answer or fail with anything.
-/

namespace BearerRole

set_option autoImplicit false

structure TokenExtractor where
  reader : TokenReader
  claimPath : Value
  operatorValue : Value

inductive Extractor
  | token (extractor : TokenExtractor)
  | hook (run : Request → Except Fault Value)

def standardPath : Text := text "role"
def standardOperator : Text := text "operator"

namespace TokenExtractor

def logger : String := "rolegate.extractor"

def pathText (path : Value) : Except Fault Text :=
  match path with
  | .bytes _ => .error .unsuitable
  | path =>
      match path.asText? with
      | some t => .ok t
      | none => .error .missingPart

def claimAt (path claims : Value) : Except Fault (Option Value) :=
  (pathText path).map (Claim.at? claims)

def roleUnder (operatorValue : Value) (claim : Option Value) : Except Fault Role :=
  match claim, operatorValue.asText? with
  | none, _ => .ok .viewer
  | some claim, some operatorValue => .ok (Claim.role operatorValue (some claim))
  | some _, none => .error .missingPart

def roleOf (extractor : TokenExtractor) (claims : Value) : Except Fault Role := do
  roleUnder extractor.operatorValue (← claimAt extractor.claimPath claims)

def rejectedRecord (reason : Value) (verified : Bool) : LogRecord :=
  .make logger .debug "role_extraction_token_rejected"
    [(text "reason", reason), (text "verified", .bool verified)]

/-- The role of the claims that a reader gave. A rejected token is recorded and makes a viewer; other faults
are passed on. -/
def settle (extractor : TokenExtractor) (parsed : Except Fault Value) : Logged (Except Fault Role) :=
  match parsed with
  | .ok claims => .pure (extractor.roleOf claims)
  | .error (.gate ⟨.tokenRejected reason, _, _⟩) =>
      .withRecord (.ok .viewer) (rejectedRecord reason extractor.reader.isVerified)
  | .error fault => .pure (.error fault)

def derive (extractor : TokenExtractor) (authorization : Value) (now : Token.Instant) :
    Logged (Except Fault Role) :=
  match Bearer.token authorization with
  | .error fault => .pure (.error fault)
  | .ok none => .pure (.ok .viewer)
  | .ok (some token) => extractor.settle (extractor.reader.read token now)

def call (extractor : TokenExtractor) (request : Request) (now : Token.Instant) : Logged Role :=
  let derived := match request.headers.get Bearer.headerName with
    | .ok authorization => extractor.derive authorization now
    | .error fault => .pure (.error fault)
  match derived.value with
  | .ok role => ⟨role, derived.records⟩
  | .error fault => ⟨.viewer, derived.records ++ [.caught logger [] fault]⟩

end TokenExtractor

def roleHeaderName : Text := text "X-User-Role"

def roleNamed (t : Text) : Role :=
  if Text.lower (Text.trim t) = Role.operator.name then .operator else .viewer

def headerRole (request : Request) : Except Fault Role := do
  let value ← request.headers.get roleHeaderName
  if value.isFalsy then .ok .viewer
  else
    match value with
    | .bytes _ => .ok .viewer
    | value =>
        match value.asText? with
        | some t => .ok (roleNamed t)
        | none => .error .missingPart

namespace Extractor

def header : Extractor := hook fun request => (headerRole request).map .role

def run (extractor : Extractor) (request : Request) (now : Token.Instant) :
    Logged (Except Fault Value) :=
  match extractor with
  | token extractor => (extractor.call request now).map fun role => .ok (.role role)
  | hook run => .pure (run request)

end Extractor

end BearerRole
