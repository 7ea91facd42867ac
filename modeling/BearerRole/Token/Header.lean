import BearerRole.Key.Signature
import BearerRole.Token.Compact

/-!
Checks on the header of a token: the extensions that it marks as critical, and the signature by its algorithm.
-/

namespace BearerRole.Token

set_option autoImplicit false

def keyIdEntry : Text := text "kid"
def criticalEntry : Text := text "crit"
def encodedEntry : Text := text "b64"
def algorithmEntry : Text := text "alg"

def isDetached (header : Fields) : Bool :=
  match header.get? encodedEntry with
  | some (.bool false) => true
  | _ => false

def isKeyIdValid (header : Fields) : Bool :=
  match header.get? keyIdEntry with
  | some v => v.isText
  | none => true

/-- The only extension that is understood, and it must be in the header. -/
def isKnownExtension (header : Fields) (v : Value) : Bool :=
  match v.asText? with
  | some name => name == encodedEntry && header.has name
  | none => false

/-- The extensions marked as critical, where there are some, are a list of at least one, all known. -/
def areExtensionsValid (header : Fields) : Bool :=
  match header.get? criticalEntry with
  | none => true
  | some (.list (first :: rest)) => (first :: rest).all (isKnownExtension header)
  | some _ => false

/-- Checks what the header says of itself. No payload is ever given apart from its token. -/
def checkHeader (header : Fields) : Except Rejection Unit :=
  if !isKeyIdValid header || !areExtensionsValid header then .error .invalidToken
  else if isDetached header then
    if header.has criticalEntry then .error .malformed else .error .invalidToken
  else .ok ()

def algorithm? (header : Fields) : Option Algorithm := do
  let name ← (← header.get? algorithmEntry).asText?
  Algorithm.ofName? name

/-- Checks the signature over the bytes of the token up to its last dot. -/
def checkSignature (key : RsaKey) (header : Fields) (signed signature : Bytes) : Except Rejection Unit :=
  match algorithm? header with
  | none => .error .invalidAlgorithm
  | some algorithm =>
      if Signature.verifies key algorithm signed signature then .ok () else .error .invalidSignature

end BearerRole.Token
