import BearerRole.Fault

/-!
Why a token is rejected. The errors of a decoder are of several kinds, some of them special cases of others, and each comes to one
of a few coarse reasons. These are logged, and never told to the caller.
-/

namespace BearerRole

set_option autoImplicit false

inductive RequiredClaim
  | issuer
  | audience
  deriving Repr, DecidableEq

def RequiredClaim.key : RequiredClaim → Text
  | issuer => text "iss"
  | audience => text "aud"

/-- An error of any kind besides these counts as an invalid token. -/
inductive Rejection
  | expired
  | notYetValid
  | invalidIssuer
  | invalidAudience
  | missingClaim (claim : RequiredClaim)
  | invalidAlgorithm
  | invalidSignature
  | malformed
  | invalidToken
  deriving Repr, DecidableEq

namespace Rejection

inductive Kind
  | expired
  | notYetValid
  | invalidIssuer
  | invalidAudience
  | missingClaim
  | invalidAlgorithm
  | invalidSignature
  | malformed
  | invalidToken
  deriving Repr, DecidableEq

def kind : Rejection → Kind
  | expired => .expired
  | notYetValid => .notYetValid
  | invalidIssuer => .invalidIssuer
  | invalidAudience => .invalidAudience
  | missingClaim _ => .missingClaim
  | invalidAlgorithm => .invalidAlgorithm
  | invalidSignature => .invalidSignature
  | malformed => .malformed
  | invalidToken => .invalidToken

/-- A kind with those that it is a special case of, up to the most general one. -/
def Kind.lineage : Kind → List Kind
  | .invalidSignature => [.invalidSignature, .malformed, .invalidToken]
  | .invalidToken => [.invalidToken]
  | kind => [kind, .invalidToken]

/-- The reasons by kinds of errors, in the order in which they are tried. -/
def clauses : List (Kind × Text) :=
  [(.expired, text "token_expired"), (.notYetValid, text "token_not_yet_valid"), (.invalidIssuer, text "invalid_issuer"),
    (.invalidAudience, text "invalid_audience"), (.missingClaim, text "missing_claim"),
    (.invalidAlgorithm, text "invalid_algorithm"), (.invalidSignature, text "invalid_signature"),
    (.malformed, text "malformed_token"), (.invalidToken, text "invalid_token")]

/-- The first clause counts that is for the kind of the error or for a more general one. -/
def reason (r : Rejection) : Text :=
  match clauses.find? fun clause => r.kind.lineage.contains clause.1 with
  | some clause => clause.2
  | none => []

/-- Only a missing claim is named in the message; otherwise the reason makes it. -/
def message : Rejection → Value
  | missingClaim claim => .text (text "Token rejected: missing claim " ++ claim.key)
  | _ => .null

def error (r : Rejection) : GateError := GateError.tokenRejected (.text r.reason) r.message

def fault (r : Rejection) : Fault := .gate r.error

end Rejection

end BearerRole
