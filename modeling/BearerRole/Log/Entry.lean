import BearerRole.Log.Record
import BearerRole.Log.Redaction

/-!
Entries: the fields of a log line in their order. Records and events reach the same form by different ways, and
both are redacted last, after everything that adds fields.
-/

namespace BearerRole.Log

set_option autoImplicit false

def eventKey : Text := text "event"
def loggerKey : Text := text "logger"
def levelKey : Text := text "level"
def timestampKey : Text := text "timestamp"
def exceptionKey : Text := text "exception"
def positionalKey : Text := text "positional_args"

/-- Context adds only fields that are not there yet. -/
def addContext (context fields : Fields) : Fields :=
  context.foldl (fun acc entry => if acc.has entry.1 then acc else acc.insert entry.1 entry.2) fields

def levelName (level : Level) : Text :=
  if level = Level.critical then text "critical"
  else if level = Level.error then text "error"
  else if level = Level.warning then text "warning"
  else if level = Level.info then text "info"
  else if level = Level.debug then text "debug"
  else if level = 0 then text "notset"
  else text "level " ++ Text.ofNat level

def loggerName (name : Text) : Text := if name.isEmpty then text "root" else name

def recordKey : Text := text "_record"

/-- What travels with the fields to the place where lines are made. No line shows it. -/
def hiddenKeys : List Text := [recordKey, text "_from_structlog", text "exc_info"]

def visible (fields : Fields) : Fields := fields.filter fun entry => !hiddenKeys.contains entry.1

def finish (stamp : Text) (fields : Fields) : Fields :=
  visible (redact (fields.insert timestampKey (.text stamp)))

/-- The fields of a record: its event, the context, logger and level, and then its own fields, which may replace
those. -/
def recordFields (stamp : Text) (context : Fields) (logger : Text) (level : Level) (event : Text)
    (extra : Fields) : Fields :=
  let fields := addContext context [(eventKey, .text event)]
  let fields := fields.insert loggerKey (.text (loggerName logger))
  let fields := fields.insert levelKey (.text (levelName level))
  finish stamp (fields.insertAll extra)

def gather (context bound own : Fields) (arguments : List Value) (event : Value) : Fields :=
  let fields := Fields.insertAll (Fields.insertAll [] bound) own
  let fields := if arguments.isEmpty then fields else fields.insert positionalKey (.tuple arguments)
  let fields := if event == .null then fields else fields.insert eventKey event
  addContext context fields

def hasFalseRecord (fields : Fields) : Bool :=
  match fields.get? recordKey with
  | none | some .null => false
  | some _ => true

def eventFields (stamp : Text) (gathered : Fields) (logger : Text) (level : Level) : Fields :=
  let fields := gathered.insert loggerKey (.text (loggerName logger))
  finish stamp (fields.insert levelKey (.text (levelName level)))

structure Failure where
  kind : Text
  message : Text
  deriving Repr, DecidableEq

def Failure.shown (failure : Failure) : Text :=
  if failure.message.isEmpty then failure.kind else failure.kind ++ text ": " ++ failure.message

def addFailure (failure : Option Failure) (fields : Fields) : Fields :=
  match failure with
  | some failure => fields.insert exceptionKey (.text failure.shown)
  | none => fields

end BearerRole.Log
