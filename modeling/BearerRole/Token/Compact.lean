import BearerRole.Codec.Base64
import BearerRole.Codec.Utf8
import BearerRole.Json.Printer
import BearerRole.Json.Reader
import BearerRole.Token.Rejection

/-!
The compact form of a token: header, payload and signature in base64url with dots between them. `Compact.ofText?`
takes a token apart, and `mint` makes an unsigned one from claims.
-/

namespace BearerRole.Token

set_option autoImplicit false

def dot : CodePoint := 46

/-- The segments as sent. What the signature covers is the text up to the last dot. -/
structure Compact where
  signed : Text
  header : Text
  payload : Text
  signature : Text
  deriving Repr, DecidableEq

/-- The signature follows the last dot, and the header ends at the first one before that. -/
def Compact.ofText? (token : Text) : Option Compact := do
  let (signed, signature) ← Text.cutLast dot token
  let (header, payload) ← Text.cut dot signed
  some ⟨signed, header, payload, signature⟩

/-- How many calls may stand inside one another. Each level of JSON takes one. -/
def callLimit : Nat := 1000

/-- The calls that stand inside one another when a token is read. The host settles how many: twenty are those of a small one. -/
def callsInUse : Nat := 20

/-- The limit on digits is that of the language for integers that are written out. -/
def limits : Json.Limits := ⟨callLimit - callsInUse, some 4300⟩

def object? (json : Bytes) : Option Fields :=
  match Json.readBytes limits json with
  | some (.object fields) => some fields
  | _ => none

def segment (fields : Fields) : Text :=
  Base64.encode .url ((Json.write .segment (.object fields)).map UInt8.ofNat)

def unsignedHeader : Fields := [(text "alg", .ofText "none"), (text "typ", .ofText "JWT")]

def mint (claims : Fields) : Text :=
  segment unsignedHeader ++ [dot] ++ segment claims ++ [dot]

end BearerRole.Token
