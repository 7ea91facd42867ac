import BearerRole.Token.Claims
import BearerRole.Token.Header

/-!
From a token to its claims. A verifying reader accepts only what its key signed; a trusting one leaves the signature
to whoever passed the token on. All other checks are the same.
-/

namespace BearerRole

set_option autoImplicit false

/-- A custom reader may return or fail with anything. -/
inductive TokenReader
  | verifying (key : RsaKey) (expected : Token.Expectations)
  | trusting (expected : Token.Expectations)
  | custom (verified : Bool) (run : Text → Token.Instant → Except Fault Value)

namespace Token

structure Decoded where
  header : Fields
  signed : Bytes
  payload : Bytes
  signature : Bytes
  deriving BEq

def require {α : Type} (r : Rejection) (part : Option α) : Except Rejection α :=
  match part with
  | some a => .ok a
  | none => .error r

def decode (token : Text) : Except Rejection Decoded := do
  let compact ← require .malformed (Compact.ofText? token)
  let headerBytes ← require .malformed (Base64.decodeSegment compact.header)
  let header ← require .malformed (object? headerBytes)
  let payload ←
    if isDetached header then
      if compact.payload.isEmpty then .ok [] else .error .malformed
    else require .malformed (Base64.decodeSegment compact.payload)
  let signature ← require .malformed (Base64.decodeSegment compact.signature)
  .ok ⟨header, compact.signed.map UInt8.ofNat, payload, signature⟩

def authenticate (key : Option RsaKey) (token : Text) : Except Rejection Decoded := do
  let decoded ← decode token
  checkHeader decoded.header
  match key with
  | some key => checkSignature key decoded.header decoded.signed decoded.signature
  | none => .ok ()
  .ok decoded

def reject {α : Type} : Except Rejection α → Except Fault α
  | .ok a => .ok a
  | .error r => .error r.fault

def Options.ofKey (key : Option RsaKey) (expected : Expectations) : Options :=
  match key with
  | some _ => verifying expected
  | none => trusting expected

/-- The claims of a token, after all checks that are asked for in their order: structure, header, signature, payload, the
kind of the expected audience, and the claims. -/
def claims (key : Option RsaKey) (expected : Expectations) (now : Instant) (token : Text) :
    Except Fault Fields :=
  let options := Options.ofKey key expected
  if Text.isWellFormed token then do
    let decoded ← reject (authenticate (if options.asks .signature then key else none) token)
    let claims ← reject (require .malformed (object? decoded.payload))
    let wanted ← wantedAudiences expected.audience
    reject (checkClaims options expected wanted now claims)
    .ok claims
  else .error .unencodable

end Token

namespace TokenReader

def forKey (key : Option RsaKey) (expected : Token.Expectations) : TokenReader :=
  match key with
  | some key => verifying key expected
  | none => trusting expected

def isVerified : TokenReader → Bool
  | verifying _ _ => true
  | trusting _ => false
  | custom verified _ => verified

def expected : TokenReader → Token.Expectations
  | verifying _ expected => expected
  | trusting expected => expected
  | custom _ _ => .none

def read (reader : TokenReader) (token : Text) (now : Token.Instant) : Except Fault Value :=
  match reader with
  | verifying key expected => (Token.claims (some key) expected now token).map .object
  | trusting expected => (Token.claims none expected now token).map .object
  | custom _ run => run token now

end TokenReader

end BearerRole
