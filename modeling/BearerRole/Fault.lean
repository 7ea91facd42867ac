import BearerRole.Value.Inspect

/-!
What can go wrong. The errors that this library reports itself are gate errors: a message, a context of
named values, and a kind with the data of its own. All other faults are told apart by their causes.
-/

namespace BearerRole

set_option autoImplicit false

inductive GateErrorKind
  | general
  | keyLoad (path reason : Value)
  | tokenRejected (reason : Value)
  | accessDenied
  deriving Repr, BEq, Inhabited

namespace GateErrorKind

def label : GateErrorKind → Text
  | general => text "RoleGateError"
  | keyLoad _ _ => text "KeyLoadError"
  | tokenRejected _ => text "ClaimsParseError"
  | accessDenied => text "AuthorizationError"

def code : GateErrorKind → Text
  | general => text "ROLE_GATE_ERROR"
  | keyLoad _ _ => text "KEY_LOAD_ERROR"
  | tokenRejected _ => text "CLAIMS_PARSE_ERROR"
  | accessDenied => text "AUTHORIZATION_DENIED"

/-- The kind with those that it is a special case of, up to the most general one. -/
def lineage (kind : GateErrorKind) : List Text :=
  match kind with
  | general => [kind.label, text "Exception"]
  | _ => [kind.label, label general, text "Exception"]

def reason? : GateErrorKind → Option Value
  | keyLoad _ reason => some reason
  | tokenRejected reason => some reason
  | _ => none

def keyPath? : GateErrorKind → Option Value
  | keyLoad path _ => some path
  | _ => none

end GateErrorKind

/-- Message and context are texts and objects in every error that this library reports; values of other kinds
come only from outside. -/
structure GateError where
  kind : GateErrorKind
  message : Value
  context : Value
  deriving Repr, BEq, Inhabited

/-- One failed field of settings: which rule, under which name the value was given, and the wording. -/
structure FieldError where
  rule : Text
  location : List Text
  message : Text
  deriving Repr, DecidableEq, Inhabited

inductive Fault
  | gate (error : GateError)
  | invalidSettings (errors : List FieldError)
  /-- A part was asked of a value that has no such part. -/
  | missingPart
  /-- A value of a kind that the operation does not take. -/
  | unsuitable
  /-- Text with a surrogate that stands alone has no UTF-8 form. -/
  | unencodable
  | undecodable
  /-- A path or a name of a variable that no operating system takes. -/
  | badPath
  | frozen
  /-- A failure of the host's own code, by the name that it has there. -/
  | foreign (name : Text)
  | taken
  | noSuchKey
  | noSuchFile
  | notADirectory
  | isADirectory
  | alreadyThere
  | denied
  /-- A refusal of the operating system of any other kind. -/
  | system
  | noSettings
  | noExtractor
  deriving Repr, BEq, Inhabited

namespace GateError

/-- An empty context is an empty object, whatever it was given as. -/
def make (kind : GateErrorKind) (message context : Value) : GateError :=
  ⟨kind, message, if context.isFalsy then .object [] else context⟩

def keyLoad (path reason : Value) : GateError :=
  make (.keyLoad path reason)
    (.text (text "Failed to load public key from " ++ path.display ++ text ": " ++ reason.display)) .null

def tokenRejected (reason message : Value) : GateError :=
  make (.tokenRejected reason)
    (if message.isFalsy then .text (text "Token rejected: " ++ reason.display) else message)
    (.object [(text "reason", reason)])

def accessDenied (required : Role) : GateError :=
  make .accessDenied (.ofText "Insufficient permissions")
    (.object [(text "required_role", .text required.name)])

def ofArguments (label : Text) (arguments : List Value) : Except Fault GateError :=
  if label = GateErrorKind.label .general then ofMessage .general arguments
  else if label = GateErrorKind.label .accessDenied then ofMessage .accessDenied arguments
  else if label = GateErrorKind.label (.keyLoad .null .null) then
    match arguments with
    | [path, reason] => .ok (keyLoad path reason)
    | _ => .error .unsuitable
  else
    match arguments with
    | [reason] => .ok (tokenRejected reason .null)
    | [reason, message] => .ok (tokenRejected reason message)
    | _ => .error .unsuitable
where
  ofMessage (kind : GateErrorKind) : List Value → Except Fault GateError
    | [message] => .ok (make kind message .null)
    | [message, context] => .ok (make kind message context)
    | _ => .error .unsuitable

def contextText (fields : Fields) : Text :=
  Text.join (text ", ") (fields.map fun entry => entry.1 ++ [61] ++ entry.2.display)

/-- The message as it is, or followed by the context if there is any. -/
def display (error : GateError) : Except Fault Value :=
  match error.context with
  | .object (first :: rest) =>
      .ok (.text (error.message.display ++ text " (" ++ contextText (first :: rest) ++ text ")"))
  | .object [] => if error.message.isText then .ok error.message else .error .unsuitable
  | _ => .error .missingPart

def inspect (error : GateError) : Text :=
  error.kind.label ++ text "(" ++ error.message.inspect ++ text ", context=" ++
    error.context.inspect ++ text ")"

end GateError

end BearerRole
