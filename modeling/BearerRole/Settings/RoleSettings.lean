import BearerRole.Extractor
import BearerRole.Settings.Sources

/-!
Settings of the role extractor. Blank values count as unset, the claim path is trimmed, and no key on it may be
empty. Without a key path tokens are not verified.
-/

namespace BearerRole.Settings

set_option autoImplicit false

structure RoleSettings where
  claimPath : Text
  operatorValue : Text
  publicKeyPath : Option Text
  issuer : Option Text
  audience : Option Text
  deriving Repr, DecidableEq, Inhabited

namespace RoleSettings

def claimPathField : Text := text "claim_path"
def operatorValueField : Text := text "operator_value"
def publicKeyPathField : Text := text "public_key_path"
def issuerField : Text := text "issuer"
def audienceField : Text := text "audience"

/-- Variables have these names after it, in lower case. -/
def variableStart : Text := text "role_extractor_"

def valueOf (sources : Sources) (field : Text) : Option Value :=
  match sources.given? field with
  | some v => some v
  | none => (sources.variableValue? (variableStart ++ field)).map .text

/-- Blank and null mean the default; other text is trimmed. -/
def normalPath (v : Value) : Value :=
  if v == .null || isBlankValue v then .text standardPath
  else
    match v.asText? with
    | some t => .text (Text.trim t)
    | none => v

/-- No key of a path may be empty. -/
def checkPath (path : Text) : Except Violation Text :=
  if (Text.split Claim.dot path).any List.isEmpty then
    .error (.rejected (text "claim_path must not contain empty segments, got " ++ path.inspect))
  else .ok path

def claimPathOf (given : Option Value) : Except Violation Text :=
  match given with
  | none => .ok standardPath
  | some v => do checkPath (← textOf (normalPath v))

def operatorValueOf (given : Option Value) : Except Violation Text :=
  match given with
  | none => .ok standardOperator
  | some v => if v == .null || isBlankValue v then .ok standardOperator else textOf v

def optionalOf (given : Option Value) : Except Violation (Option Text) :=
  match given with
  | none => .ok none
  | some v => if isBlankValue v then .ok none else optionalTextOf v

/-- The settings that sources give, or the error of every field that failed. -/
def ofSources (sources : Sources) : Except (List FieldError) RoleSettings :=
  let claimPath := claimPathOf (valueOf sources claimPathField)
  let operatorValue := operatorValueOf (valueOf sources operatorValueField)
  let publicKeyPath := optionalOf (valueOf sources publicKeyPathField)
  let issuer := optionalOf (valueOf sources issuerField)
  let audience := optionalOf (valueOf sources audienceField)
  match claimPath, operatorValue, publicKeyPath, issuer, audience with
  | .ok claimPath, .ok operatorValue, .ok publicKeyPath, .ok issuer, .ok audience =>
      .ok ⟨claimPath, operatorValue, publicKeyPath, issuer, audience⟩
  | _, _, _, _, _ =>
      .error (errorsOf claimPathField claimPath ++ errorsOf operatorValueField operatorValue ++
        errorsOf publicKeyPathField publicKeyPath ++ errorsOf issuerField issuer ++
        errorsOf audienceField audience)

def envFileName : Text := text ".env"

def load (files : Files) (environment : Environment) (given : Fields) : Except Fault RoleSettings := do
  match ofSources (← Sources.load files environment given [envFileName]) with
  | .ok settings => .ok settings
  | .error errors => .error (.invalidSettings errors)

def verifies (settings : RoleSettings) : Bool := settings.publicKeyPath.isSome

def expectations (settings : RoleSettings) : Token.Expectations :=
  ⟨.ofText? settings.issuer, .ofText? settings.audience⟩

def toFields (settings : RoleSettings) : Fields :=
  [(claimPathField, .text settings.claimPath), (operatorValueField, .text settings.operatorValue),
    (publicKeyPathField, .ofText? settings.publicKeyPath), (issuerField, .ofText? settings.issuer),
    (audienceField, .ofText? settings.audience)]

end RoleSettings

end BearerRole.Settings
