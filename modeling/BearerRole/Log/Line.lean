import BearerRole.Json.Printer
import BearerRole.Log.Entry
import BearerRole.Text.Blank

/-!
Log lines. An entry is written as one JSON object, or for the console: time, level, event and logger in columns, then
the other fields by name, and what failed on a line of its own.
-/

namespace BearerRole.Log

set_option autoImplicit false

inductive LineFormat
  | json
  | console
  deriving Repr, DecidableEq

def jsonLine (fields : Fields) : Text := Json.write .line (.object fields)

def style (code : String) : Text := [27, 91] ++ text code ++ [109]

def plain : Text := style "0"
def bold : Text := style "1"

def levelStyles : List (Text × Text) :=
  [(text "critical", style "31"), (text "exception", style "31"), (text "error", style "31"),
    (text "warn", style "33"), (text "warning", style "33"), (text "info", style "32"),
    (text "debug", style "32"), (text "notset", style "41")]

def levelStyle (level : Text) : Text :=
  match levelStyles.lookup level with
  | some look => look ++ bold
  | none => []

def levelWidth : Nat := 9
def eventWidth : Nat := 30

def levelColumn (v : Value) : Option Text :=
  v.asText?.map fun level =>
    [91] ++ levelStyle level ++ Text.padRight levelWidth level ++ plain ++ [93]

def loggerColumn (v : Value) : Text :=
  [91] ++ plain ++ bold ++ style "34" ++ v.display ++ plain ++ [93] ++ plain

def needsQuotes (c : CodePoint) : Bool :=
  c == 32 || c == 9 || c == 61 || c == 13 || c == 10 || c == 34 || c == 39

def shown (v : Value) : Text :=
  match v.asText? with
  | some t => if t.any needsQuotes then v.inspect else t
  | none => v.inspect

def fieldColumn (key : Text) (v : Value) : Text :=
  style "36" ++ key ++ plain ++ [61] ++ style "35" ++ shown v ++ plain

def columns : List (Text × (Value → Option Text)) :=
  [([], some ∘ fieldColumn []), (timestampKey, fun v => some (style "2" ++ v.display ++ plain)),
    (levelKey, levelColumn),
    (eventKey, fun v => some (bold ++ Text.padRight eventWidth v.display ++ plain)),
    (loggerKey, some ∘ loggerColumn), (text "logger_name", some ∘ loggerColumn)]

def stackKey : Text := text "stack"

def hasOwnPlace (key : Text) : Bool :=
  key == exceptionKey || key == stackKey || columns.any fun column => column.1 == key

/-- The text of a field that follows the columns: empty where the field is missing or null, on lines of its own where it
is a text, and nothing that could be written otherwise. -/
def lineOf (fields : Fields) (key : Text) : Option Text :=
  match fields.get? key with
  | none | some .null => some []
  | some v => v.asText?.map fun t => [10] ++ t

def trailer (fields : Fields) : Option Text := do
  let stack ← lineOf fields stackKey
  let failure ← lineOf fields exceptionKey
  let rule := if stack.isEmpty || failure.isEmpty then [] else [10, 10] ++ List.replicate 79 61 ++ [10]
  some (stack ++ rule ++ failure)

/-- The columns that fields fill, and after them the other fields by name. -/
def consoleLine (fields : Fields) : Option Text := do
  let front ← (columns.filterMap fun column => (fields.get? column.1).map column.2).mapM id
  let others := (fields.filter fun entry => !hasOwnPlace entry.1).mergeSort fun a b => Text.isAtMost a.1 b.1
  let line := Text.join [32] (front ++ others.map fun entry => fieldColumn entry.1 entry.2)
  some (Text.trimEndOf (· == 32) line ++ (← trailer fields))

/-- The line of an entry. On the console some values do not fit their places, and then there is none. -/
def line : LineFormat → Fields → Option Text
  | .json, fields => some (jsonLine fields ++ [10])
  | .console, fields => (consoleLine fields).map (· ++ [10])

end BearerRole.Log
