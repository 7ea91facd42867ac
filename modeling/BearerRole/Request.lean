import BearerRole.Fault
import BearerRole.Text.Lower

/-!
What an extractor sees of a request. One that is asked before routing sees less of it than one that an endpoint asks.
-/

namespace BearerRole

set_option autoImplicit false

/-- Headers as received compare names without regard to case, and of several with one name the first counts.
Headers of any other kind are looked up by the exact name, if they can be looked up at all; the look-up of a host's own
kind may fail with anything. -/
inductive Headers
  | absent
  | plain (value : Value)
  | received (entries : List (Text × Text))
  | failing (fault : Fault)
  deriving Repr, BEq, Inhabited

def Headers.get (headers : Headers) (name : Text) : Except Fault Value :=
  match headers with
  | absent => .error .missingPart
  | plain (.object fields) => .ok ((Fields.get? fields name).getD .null)
  | plain _ => .error .missingPart
  | received entries =>
      .ok (match entries.find? fun entry => Text.lower entry.1 == Text.lower name with
        | some entry => .text entry.2
        | none => .null)
  | failing fault => .error fault

/-- What routing adds to a request: the path as its endpoint declares it, and what was asked for in the places that this
path leaves open. -/
structure Routing where
  template : Text
  parameters : List (Text × Text)
  deriving Repr, BEq, DecidableEq, Inhabited

structure Request where
  headers : Headers
  path : Text
  method : Text
  query : Text
  routing : Option Routing
  deriving Repr, BEq, Inhabited

/-- A request that stands outside of any service: it has headers and a path, and nothing else. -/
def Request.bare (headers : Headers) (path : Text) : Request := ⟨headers, path, [], [], none⟩

end BearerRole
