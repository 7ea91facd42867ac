import BearerRole.Text.Integer
import BearerRole.Token.Rejection

/-!
Checks on the claims of a token: the window of time in which it is valid, its issuer, its audience, and the forms of other claims.
Which of them are made is a matter of options.
-/

namespace BearerRole.Token

set_option autoImplicit false

abbrev Instant := Rat

/-- What a configuration asks of the claims; null asks nothing. -/
structure Expectations where
  issuer : Value
  audience : Value
  deriving Repr, BEq, Inhabited

def Expectations.none : Expectations := ⟨.null, .null⟩

def notBeforeClaim : Text := text "nbf"
def expiryClaim : Text := text "exp"
def issuedAtClaim : Text := text "iat"
def subjectClaim : Text := text "sub"
def tokenIdClaim : Text := text "jti"

/-- The checks of a token that can be asked for or left out. -/
inductive Check
  | signature
  | issuedAt
  | notBefore
  | expiry
  | issuer
  | audience
  | subject
  | tokenId
  deriving Repr, DecidableEq

/-- Options as they are written down; of several for one check the last counts. -/
abbrev Options := List (Check × Bool)

namespace Options

/-- A check without an option of its own goes with that of the signature, which is made unless it is left out. -/
def asks (options : Options) (check : Check) : Bool :=
  (options.reverse.lookup check).getD ((options.reverse.lookup .signature).getD true)

def ask {ε : Type} (options : Options) (check : Check) (outcome : Except ε Unit) : Except ε Unit :=
  if options.asks check then outcome else .ok ()

/-- Registered claims that no role comes from are left alone. -/
def unchecked : Options := [(.issuedAt, false), (.subject, false), (.tokenId, false)]

def verifying (expected : Expectations) : Options :=
  unchecked ++ [(.audience, !expected.audience.isNull)]

/-- Without its signature a token is still held to its window of time, and to what is expected of it. -/
def trusting (expected : Expectations) : Options :=
  unchecked ++ [(.signature, false), (.expiry, true), (.notBefore, true), (.issuer, !expected.issuer.isNull),
    (.audience, !expected.audience.isNull)]

end Options

def second? : Value → Option Int
  | .int n => some n
  | .bool b => some (if b then 1 else 0)
  | .float x => x.truncate?
  | .text t => Text.integer? t
  | .role r => Text.integer? r.name
  | _ => none

/-- A token is not valid before the second of its `nbf` claim. -/
def checkNotBefore (now : Instant) (claims : Fields) : Except Rejection Unit :=
  match claims.get? notBeforeClaim with
  | none => .ok ()
  | some v =>
      match second? v with
      | none => .error .malformed
      | some s => if now < (s : Rat) then .error .notYetValid else .ok ()

/-- A token is not valid from the second of its `exp` claim on. -/
def checkExpiry (now : Instant) (claims : Fields) : Except Rejection Unit :=
  match claims.get? expiryClaim with
  | none => .ok ()
  | some v =>
      match second? v with
      | none => .error .malformed
      | some s => if (s : Rat) ≤ now then .error .expired else .ok ()

/-- A token is not valid before the second of its `iat` claim. -/
def checkIssuedAt (now : Instant) (claims : Fields) : Except Rejection Unit :=
  match claims.get? issuedAtClaim with
  | none => .ok ()
  | some v =>
      match second? v with
      | none => .error .invalidToken
      | some s => if now < (s : Rat) then .error .notYetValid else .ok ()

/-- A claim that names the subject or the token is text, where there is one. -/
def checkText (claim : Text) (claims : Fields) : Except Rejection Unit :=
  match claims.get? claim with
  | none => .ok ()
  | some v => if v.isText then .ok () else .error .invalidToken

def textsIn : Value → List Text
  | .list items => items.filterMap Value.asText?
  | .tuple items => items.filterMap Value.asText?
  | .object fields => Fields.keys fields
  | _ => []

def allowedIssuers (expected : Value) : List Text :=
  match expected.asText? with
  | some t => [t]
  | none => textsIn expected

def checkIssuer (expected : Value) (claims : Fields) : Except Rejection Unit :=
  match expected with
  | .null => .ok ()
  | expected =>
      match claims.get? RequiredClaim.issuer.key with
      | none => .error (.missingClaim .issuer)
      | some v =>
          match v.asText? with
          | some issuer =>
              if (allowedIssuers expected).contains issuer then .ok () else .error .invalidIssuer
          | none => .error .invalidIssuer

/-- The audiences of which the token must name one. Only a text or a collection can be asked for. -/
def wantedAudiences (expected : Value) : Except Fault (List Text) :=
  match expected.asText? with
  | some t => .ok [t]
  | none =>
      match expected with
      | .null => .ok []
      | .bytes _ => .ok []
      | .list _ => .ok (textsIn expected)
      | .tuple _ => .ok (textsIn expected)
      | .object _ => .ok (textsIn expected)
      | _ => .error .unsuitable

/-- The audiences that a claim names: one text, or a list of nothing but texts. -/
def namedAudiences? : Value → Option (List Text)
  | .list items => items.mapM Value.asText?
  | v => v.asText?.map ([·])

/-- Where no audience is expected, a token that is for one is turned away. -/
def checkAudience (expected : Value) (wanted : List Text) (claims : Fields) : Except Rejection Unit :=
  match expected with
  | .null =>
      match claims.get? RequiredClaim.audience.key with
      | none => .ok ()
      | some v => if v.isFalsy then .ok () else .error .invalidAudience
  | _ =>
      match claims.get? RequiredClaim.audience.key with
      | none => .error (.missingClaim .audience)
      | some v =>
          if v.isFalsy then .error (.missingClaim .audience)
          else
            match namedAudiences? v with
            | some named => if wanted.any named.contains then .ok () else .error .invalidAudience
            | none => .error .invalidAudience

def checkClaims (options : Options) (expected : Expectations) (wanted : List Text) (now : Instant) (claims : Fields) :
    Except Rejection Unit := do
  options.ask .issuedAt (checkIssuedAt now claims)
  options.ask .notBefore (checkNotBefore now claims)
  options.ask .expiry (checkExpiry now claims)
  options.ask .issuer (checkIssuer expected.issuer claims)
  options.ask .audience (checkAudience expected.audience wanted claims)
  options.ask .subject (checkText subjectClaim claims)
  options.ask .tokenId (checkText tokenIdClaim claims)

end BearerRole.Token
