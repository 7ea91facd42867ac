import BearerRole.Gate.Effects

/-!
The role of a request. One extractor is asked: the one that was given outright, or else the one that the app holds.
Whatever it does, the request has a role: an answer that is no member of the role type, a failure, and no extractor
at all make a viewer.
-/

namespace BearerRole.Gate

set_option autoImplicit false

def contextLogger : String := "rolegate.middleware.role_context"

def notConfiguredRecord (path : Text) : LogRecord :=
  .make contextLogger .debug "role_extractor_not_configured" [(text "path", .text path)]

def failedRecord (path : Text) (fault : Fault) : LogRecord :=
  .caught contextLogger [(text "path", .text path)] fault

def roleOfAnswer : Value → Role
  | .role r => r
  | _ => .viewer

/-- An extractor as it is handed over outright. A callable of the host may count as false, and then it is passed over as if
none had been handed over. -/
structure Handed where
  extractor : Extractor
  isTrue : Bool

def explicitOf (given : Option Handed) : Option Extractor :=
  match given with
  | some ⟨extractor, true⟩ => some extractor
  | some ⟨_, false⟩ => none
  | none => none

section

variable {m : Type → Type} [Effects m]

def settleAnswer (path : Text) (answer : Except Fault Value) : m Role :=
  match answer with
  | .ok answer => pure (roleOfAnswer answer)
  | .error fault => do
      Effects.record (failedRecord path fault)
      pure .viewer

def runExtractor (extractor : Extractor) (request : Request) (now : Token.Instant) : m Role := do
  settleAnswer request.path (← Effects.run extractor request now)

/-- The role by the extractor that was handed over, or else by the one that the app holds, whether or not that one counts as
true. -/
def chosenRole (given : Option Handed) (held : Option Extractor) (request : Request) (now : Token.Instant) : m Role :=
  match explicitOf given, held with
  | some extractor, _ => runExtractor extractor request now
  | none, some extractor => runExtractor extractor request now
  | none, none => do
      Effects.record (notConfiguredRecord request.path)
      pure .viewer

def effectiveRole (noted : Option Value) (held : Option Extractor) (request : Request)
    (now : Token.Instant) : m Role :=
  match noted with
  | some (.role r) => pure r
  | _ => chosenRole none held request now

end

end BearerRole.Gate
