import BearerRole.Settings.Sources
import BearerRole.Text.Upper
import BearerRole.Log.Record

/-!
Settings of the log output: the least level that is shown, the format, and the environment that decides the
format when it is left open. A file of variables is read for them only where one is given.
-/

namespace BearerRole.Settings

set_option autoImplicit false

inductive LogLevel
  | critical
  | error
  | warning
  | info
  | debug
  deriving Repr, DecidableEq, Inhabited

namespace LogLevel

def all : List LogLevel := [critical, error, warning, info, debug]

def name : LogLevel → Text
  | critical => text "CRITICAL"
  | error => text "ERROR"
  | warning => text "WARNING"
  | info => text "INFO"
  | debug => text "DEBUG"

def level : LogLevel → Level
  | critical => .critical
  | error => .error
  | warning => .warning
  | info => .info
  | debug => .debug

/-- The standard names with their numbers. Two levels have a second name, and one name stands below all levels. -/
def registered : List (Text × Level) :=
  [(text "CRITICAL", .critical), (text "FATAL", .critical), (text "ERROR", .error), (text "WARN", .warning),
    (text "WARNING", .warning), (text "INFO", .info), (text "DEBUG", .debug), (text "NOTSET", 0)]

def ofName? (t : Text) : Option LogLevel :=
  if t = text "WARN" then some warning
  else if t = text "FATAL" then some critical
  else all.find? (·.name == t)

end LogLevel

inductive LogFormat
  | auto
  | json
  | console
  deriving Repr, DecidableEq, Inhabited

namespace LogFormat

def all : List LogFormat := [auto, json, console]

def name : LogFormat → Text
  | auto => text "auto"
  | json => text "json"
  | console => text "console"

def ofName? (t : Text) : Option LogFormat := all.find? (·.name == t)

def choices : Text := text "'auto', 'json' or 'console'"

end LogFormat

structure LogSettings where
  level : LogLevel
  format : LogFormat
  environment : Text
  deriving Repr, DecidableEq, Inhabited

namespace LogSettings

/-- A field has a name, and an alternate name that its variable has too. -/
structure Field where
  name : Text
  alternate : Text

def levelField : Field := ⟨text "log_level", text "LOG_LEVEL"⟩
def formatField : Field := ⟨text "log_format", text "LOG_FORMAT"⟩
def environmentField : Field := ⟨text "environment", text "ENVIRONMENT"⟩

def Field.find? (field : Field) (sources : Sources) : Option (Text × Value) :=
  match sources.given? field.name with
  | some v =>
      let isOwn := sources.given.has field.name && !sources.given.has field.alternate
      some (if isOwn then field.name else field.alternate, v)
  | none => (sources.variableValue? field.name).map fun t => (field.alternate, .text t)

def trimmed (v : Value) : Value :=
  match v.asText? with
  | some t => .text (Text.trim t)
  | none => v

def levelOf (v : Value) : Except Violation LogLevel := do
  let t ← textOf (trimmed v)
  match LogLevel.ofName? (Text.upper t) with
  | some level => .ok level
  | none => .error (.rejected (text "unknown log level " ++ t.inspect))

def formatOf (v : Value) : Except Violation LogFormat :=
  match v.asText?.bind fun t => LogFormat.ofName? (Text.lower (Text.trim t)) with
  | some format => .ok format
  | none => .error (.notAChoice LogFormat.choices)

def Field.check {α : Type} (field : Field) (sources : Sources) (default : α)
    (check : Value → Except Violation α) : Text × Except Violation α :=
  match field.find? sources with
  | none => (field.alternate, .ok default)
  | some (location, v) => (location, check v)

def ofSources (sources : Sources) : Except (List FieldError) LogSettings :=
  let level := levelField.check sources .info levelOf
  let format := formatField.check sources .auto formatOf
  let environment := environmentField.check sources (text "development") textOf
  match level.2, format.2, environment.2 with
  | .ok level, .ok format, .ok environment => .ok ⟨level, format, environment⟩
  | _, _, _ =>
      .error (errorsOf level.1 level.2 ++ errorsOf format.1 format.2 ++
        errorsOf environment.1 environment.2)

def load (files : Files) (environment : Environment) (given : Fields) : Except Fault LogSettings := do
  match ofSources (← Sources.load files environment given []) with
  | .ok settings => .ok settings
  | .error errors => .error (.invalidSettings errors)

def levelNumber? (settings : LogSettings) : Option Level := LogLevel.registered.lookup settings.level.name

def usesJson (settings : LogSettings) : Bool :=
  match settings.format with
  | .auto => Text.lower settings.environment == text "production"
  | .json => true
  | .console => false

end LogSettings

end BearerRole.Settings
