import BearerRole.Files
import BearerRole.Key.Pem
import BearerRole.Log.Record

/-!
Loading the key that verifies signatures. Whatever is wrong with a configured key is an error that names the path
and the class of failure, and nothing of what the file holds.
-/

namespace BearerRole.Key

set_option autoImplicit false

inductive LoadFailure
  | unreadable (failure : PathFailure)
  | notPem
  | notRsa (family : OtherFamily)
  deriving Repr, DecidableEq

def LoadFailure.reason : LoadFailure → Text
  | unreadable failure => text "unreadable: " ++ failure.message
  | notPem => text "not a PEM-encoded public key"
  | notRsa family => text "public key is not RSA (got " ++ family.label ++ text ")"

/-- Every kind of error that decoding may end with is caught, and they are not told apart. -/
def LoadFailure.ofDecoding : Pem.DecodingError → LoadFailure
  | .badValue => notPem
  | .wrongType => notPem
  | .unsupportedAlgorithm => notPem

def ofFile (content : Bytes) : Except LoadFailure RsaKey :=
  match Pem.publicKey content with
  | .error error => .error (.ofDecoding error)
  | .ok (.other family) => .error (.notRsa family)
  | .ok (.rsa key) => .ok key

def loadedRecord (path : Text) (key : RsaKey) : LogRecord :=
  .make "rolegate.keys" .info "role_extractor_key_loaded"
    [(text "key_path", .text path), (text "key_size", .int key.size)]

def failure (path : Text) (reason : LoadFailure) : Fault :=
  .gate (GateError.keyLoad (.text path) (.text reason.reason))

def load (files : Files) (path : Text) : Logged (Except Fault RsaKey) :=
  match files.read path with
  | .error fault => .pure (.error fault)
  | .ok (.error reason) => .pure (.error (failure path (.unreadable reason)))
  | .ok (.ok content) =>
      match ofFile content with
      | .error reason => .pure (.error (failure path reason))
      | .ok key => .withRecord (.ok key) (loadedRecord path key)

end BearerRole.Key
