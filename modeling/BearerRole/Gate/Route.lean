import BearerRole.Request
import BearerRole.Role

/-!
The endpoints of the service: their paths, methods, and what each depends on.
-/

namespace BearerRole.Gate

set_option autoImplicit false

inductive Route
  | sources
  | refresh
  | viewer
  | item (name : Text)
  deriving Repr, DecidableEq

/-- What an endpoint depends on: that the caller's role passes a check, or that role itself. -/
inductive Dependency
  | check (required : Role)
  | role
  deriving Repr, DecidableEq

namespace Route

def method : Route → Text
  | sources => text "GET"
  | refresh => text "POST"
  | viewer => text "GET"
  | item _ => text "PUT"

/-- Checks come before the parameters of the endpoint. -/
def dependencies : Route → List Dependency
  | sources => [.role]
  | refresh => [.check .operator]
  | viewer => [.check .viewer]
  | item _ => [.check .operator, .role]

def itemsPath : Text := text "/items/"

def routing : Route → Routing
  | sources => ⟨text "/sources", []⟩
  | refresh => ⟨text "/sources/refresh", []⟩
  | viewer => ⟨text "/viewer", []⟩
  | item name => ⟨itemsPath ++ text "\x7bname\x7d", [(text "name", name)]⟩

/-- A fixed path may have one line feed at its end. -/
def isFixed (path : Text) (fixed : String) : Bool :=
  path == text fixed || path == text fixed ++ [10]

def ofPath? (path : Text) : Option Route :=
  if isFixed path "/sources" then some sources
  else if isFixed path "/sources/refresh" then some refresh
  else if isFixed path "/viewer" then some viewer
  else if itemsPath.isPrefixOf path then
    let name := path.drop itemsPath.length
    if name.isEmpty || name.contains 47 then none else some (item name)
  else none

end Route

inductive Target
  | endpoint (route : Route)
  | wrongMethod
  | redirect
  | nowhere
  deriving Repr, DecidableEq

def Target.routing? : Target → Option Routing
  | endpoint route => some route.routing
  | wrongMethod => none
  | redirect => none
  | nowhere => none

/-- Slashes after the path of an endpoint lead back to it by a redirect. -/
def Target.of (method path : Text) : Target :=
  match Route.ofPath? path with
  | some route => if method = route.method then .endpoint route else .wrongMethod
  | none =>
      if path.getLast? = some 47 ∧ (Route.ofPath? (path.reverse.dropWhile (· == 47)).reverse).isSome then
        .redirect
      else .nowhere

end BearerRole.Gate
