import BearerRole.Fault
import BearerRole.Gate.Route
import BearerRole.Json.Printer

/-!
Responses. A body is compact JSON; one that has no UTF-8 form cannot be sent and becomes a server error.
-/

namespace BearerRole.Gate

set_option autoImplicit false

/-- A server error also shows the fault behind it to the host. -/
structure Response where
  status : Nat
  contentType : Text
  body : Text
  raised : Option Fault
  deriving Repr, BEq, Inhabited

namespace Response

def serverError (fault : Fault) : Response :=
  ⟨500, text "text/plain; charset=utf-8", text "Internal Server Error", some fault⟩

def json (status : Nat) (contentType : String) (fields : Fields) : Response :=
  let body := Json.write .body (.object fields)
  if Text.isWellFormed body then ⟨status, text contentType, body, none⟩
  else serverError .unencodable

def ok (fields : Fields) : Response := json 200 "application/json" fields

def notFound : Response := json 404 "application/json" [(text "detail", .ofText "Not Found")]

def wrongMethod : Response :=
  json 405 "application/json" [(text "detail", .ofText "Method Not Allowed")]

def redirect : Response := ⟨307, [], [], none⟩

def denied (path : Text) : Response :=
  json 403 "application/problem+json"
    [(text "type", .ofText "/errors/forbidden"), (text "title", .ofText "Forbidden"),
      (text "status", .int 403), (text "detail", .ofText "insufficient permissions"),
      (text "error_code", .text GateErrorKind.accessDenied.code), (text "instance", .text path)]

def ofRoute (route : Route) (role : Option Role) : Response :=
  let shownRole := (text "role", Value.ofText? (role.map Role.name))
  match route with
  | .sources => ok [shownRole]
  | .refresh => ok [(text "status", .ofText "refreshing")]
  | .viewer => ok [(text "status", .ofText "ok")]
  | .item name => ok [(text "name", .text name), shownRole]

end Response

end BearerRole.Gate
