import BearerRole.Fault

/-!
Log records, and computations that leave some. Main definition: `Logged`, a value with the records of its
making in order.
-/

namespace BearerRole

set_option autoImplicit false

/-- Severities by their numbers; names belong to the rendering. -/
abbrev Level := Nat

namespace Level

def debug : Level := 10
def info : Level := 20
def warning : Level := 30
def error : Level := 40
def critical : Level := 50

end Level

structure LogRecord where
  logger : Text
  level : Level
  event : Text
  extra : Fields
  failure : Option Fault
  deriving Repr, BEq, Inhabited

def LogRecord.make (logger : String) (level : Level) (event : String) (extra : Fields) : LogRecord :=
  ⟨text logger, level, text event, extra, none⟩

def LogRecord.caught (logger : String) (extra : Fields) (failure : Fault) : LogRecord :=
  ⟨text logger, .warning, text "role_extraction_unexpected_error", extra, some failure⟩

structure Logged (α : Type) where
  value : α
  records : List LogRecord
  deriving Repr

namespace Logged

variable {α β : Type}

def pure (a : α) : Logged α := ⟨a, []⟩

def bind (x : Logged α) (f : α → Logged β) : Logged β :=
  let y := f x.value
  ⟨y.value, x.records ++ y.records⟩

def map (f : α → β) (x : Logged α) : Logged β := ⟨f x.value, x.records⟩

/-- Goes on after a success; a failure ends the computation. -/
def andThen (x : Logged (Except Fault α)) (f : α → Logged (Except Fault β)) : Logged (Except Fault β) :=
  match x.value with
  | .ok a => let y := f a; ⟨y.value, x.records ++ y.records⟩
  | .error fault => ⟨.error fault, x.records⟩

def withRecord (a : α) (record : LogRecord) : Logged α := ⟨a, [record]⟩

end Logged

end BearerRole
