import BearerRole.Extractor
import BearerRole.Log.Line
import BearerRole.Log.Report
import BearerRole.Log.Template
import BearerRole.Settings.LogSettings

/-!
The log output of a program: at first bare messages of warnings and worse; once configured, lines of one format for
everything from one level on.
-/

namespace BearerRole.Log

open Settings

set_option autoImplicit false

structure Output where
  level : Level
  format : LineFormat
  deriving Repr, DecidableEq

structure Journal where
  output : Option Output
  context : Fields
  deriving Repr, BEq

namespace Journal

def start : Journal := ⟨none, []⟩

def level (s : Journal) : Level :=
  match s.output with
  | some output => output.level
  | none => .warning

def handlerCount (s : Journal) : Nat := if s.output.isSome then 1 else 0

def configure (s : Journal) (settings : LogSettings) : Journal :=
  { s with output := some ⟨settings.level.level, if settings.usesJson then .json else .console⟩ }

def bind (s : Journal) (fields : Fields) : Journal := { s with context := s.context.insertAll fields }

def clear (s : Journal) : Journal := { s with context := [] }

/-- Names of a record's own parts, which no further field may take. -/
def takenNames : List Text :=
  [text "name", text "msg", text "args", text "levelname", text "levelno", text "pathname",
    text "filename", text "module", text "exc_info", text "exc_text", text "stack_info",
    text "lineno", text "funcName", text "created", text "msecs", text "relativeCreated",
    text "thread", text "threadName", text "processName", text "process", text "message",
    text "asctime"]

structure Message where
  logger : Text
  level : Level
  template : Text
  arguments : List Value
  extra : Fields
  failure : Option Failure
  deriving Repr, BEq

/-- The line of a message before anything is configured. A failure begins a line of its own. -/
def bareLine (message : Text) (failure : Option Failure) : Text :=
  match failure with
  | some failure =>
      message ++ (if message.getLast? = some 10 then [] else [10]) ++ failure.shown ++ [10]
  | none => message ++ [10]

/-- Fields by which a record passes for an event, though it has no fields of one. -/
def disguises : List Text := [text "_logger", text "_name"]

/-- What a message writes. One below the least level writes nothing; so does one that no line can be made of. -/
def write (s : Journal) (stamp : Text) (m : Message) : Except Fault Text :=
  if m.level < s.level then .ok []
  else if m.extra.keys.any takenNames.contains then .error .taken
  else
    match Template.message? m.template m.arguments, s.output with
    | none, _ => .ok []
    | some message, none => .ok (bareLine message m.failure)
    | some message, some output =>
        if disguises.all m.extra.has then .ok []
        else
          let fields := recordFields stamp s.context m.logger m.level message m.extra
          .ok ((line output.format (addFailure m.failure fields)).getD [])

def writeRecords (s : Journal) (stamp : Text) (records : List LogRecord) : Except Fault Text := do
  let lines ← records.mapM fun r => s.write stamp ⟨r.logger, r.level, r.event, [], r.extra, none⟩
  .ok lines.flatten

/-- What an event writes. Whether it can be reported is decided before its level is. -/
def report (s : Journal) (stamp : Text) (e : Event) : Except Fault Text := do
  match ← e.report?, s.output with
  | none, _ => .ok []
  | some _, none => .ok []
  | some report, some output =>
      let gathered := gather s.context e.bound report.own report.arguments report.event
      if hasFalseRecord gathered then .error .missingPart
      else if report.level < output.level then .ok []
      else
        let fields := eventFields stamp gathered e.logger report.level
        .ok ((line output.format (addFailure e.failure fields)).getD [])

end Journal

end BearerRole.Log
