import BearerRole.Log.Entry

/-!
Events that a program reports by the name of a method. The method decides the level, and with it which values are the event,
its further arguments and its fields. Main definition: `Event.report?`.
-/

namespace BearerRole.Log

set_option autoImplicit false

structure Event where
  logger : Text
  method : Text
  event : Value
  arguments : List Value
  bound : Fields
  own : Fields
  failure : Option Failure
  deriving Repr, BEq

inductive Method
  | report (level : Level)
  /-- Reports at the level that stands before the event. -/
  | reportAt
  /-- Reports when it is waited for, which no one does. -/
  | deferred
  /-- Forgets bound fields, all of which must be there if it is strict. -/
  | forget (strict : Bool)
  /-- A part of the logger that takes no event. -/
  | part
  deriving Repr, DecidableEq

namespace Method

def reports : List (Text × Level) :=
  [(text "debug", .debug), (text "info", .info), (text "warning", .warning), (text "warn", .warning),
    (text "error", .error), (text "exception", .error), (text "critical", .critical),
    (text "fatal", .critical)]

def deferredNames : List Text :=
  [text "adebug", text "ainfo", text "awarning", text "aerror", text "aexception", text "acritical",
    text "afatal", text "alog"]

def parts : List Text :=
  [text "name", text "level", text "parent", text "propagate", text "handlers", text "disabled",
    text "bind", text "new", text "getEffectiveLevel", text "hasHandlers", text "makeRecord"]

def ofName? (name : Text) : Option Method :=
  if name = text "log" then some reportAt
  else if name = text "unbind" then some (forget true)
  else if name = text "try_unbind" then some (forget false)
  else if deferredNames.contains name then some deferred
  else if parts.contains name then some part
  else (reports.lookup name).map report

end Method

structure Report where
  level : Level
  event : Value
  arguments : List Value
  own : Fields
  deriving Repr, BEq

def isNoKey : Value → Bool
  | .list _ => true
  | .object _ => true
  | .tuple items => items.attach.any fun ⟨v, _⟩ => isNoKey v
  | _ => false

def numberedLevels : List Level := [.debug, .info, .warning, .error, .critical]

def levelNumbered (v : Value) : Except Fault Level :=
  if isNoKey v then .error .unsuitable
  else
    let found := match v with
      | .int n => numberedLevels.find? fun (level : Nat) => n == level
      | .float x => numberedLevels.find? fun (level : Nat) => x.isFinite && x.toRat == level
      | _ => none
    match found with
    | some level => .ok level
    | none => .error .noSuchKey

namespace Event

/-- The name that a logger has in its own methods; no field can have it. -/
def selfName : Text := text "self"

/-- The name under which a report passes its method on; no field of the event's own can have it. -/
def methodName : Text := text "method_name"

/-- The report of an event whose level stands first. The event follows it, as the next argument or as a field. -/
def reportAt (e : Event) : Except Fault Report := do
  if e.own.has selfName || e.own.has levelKey then .error .unsuitable
  else
    let (event, arguments) ← match e.arguments with
      | [] => .ok ((e.own.get? eventKey).getD .null, [])
      | event :: rest => if e.own.has eventKey then .error .unsuitable else .ok (event, rest)
    let level ← levelNumbered e.event
    if e.own.has methodName then .error .unsuitable
    else .ok ⟨level, event, arguments, e.own.filter fun entry => entry.1 ≠ eventKey⟩

def forgets (e : Event) (strict : Bool) : Except Fault Unit :=
  if !e.own.isEmpty || e.failure.isSome then .error .unsuitable
  else go (e.bound.map Prod.fst) (e.event :: e.arguments)
where
  go (bound : List Text) : List Value → Except Fault Unit
    | [] => .ok ()
    | v :: rest =>
        if isNoKey v then .error .unsuitable
        else
          match v with
          | .text name =>
              if bound.contains name then go (bound.filter (· ≠ name)) rest
              else if strict then .error .noSuchKey else go bound rest
          | _ => if strict then .error .noSuchKey else go bound rest

def report? (e : Event) : Except Fault (Option Report) :=
  if e.bound.has selfName then .error .unsuitable
  else
    match Method.ofName? e.method with
    | none => .error .missingPart
    | some .part => .error .unsuitable
    | some (.forget strict) => (e.forgets strict).map fun _ => none
    | some .deferred =>
        if e.own.has selfName || e.own.has eventKey then .error .unsuitable else .ok none
    | some .reportAt => e.reportAt.map some
    | some (.report level) =>
        if e.own.has selfName || e.own.has eventKey || e.own.has methodName then .error .unsuitable
        else .ok (some ⟨level, e.event, e.arguments, e.own⟩)

end Event

end BearerRole.Log
