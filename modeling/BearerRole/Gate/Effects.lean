import BearerRole.Extractor

/-!
What answering a request does besides computing: extractors are run, and records are left. The gate is written for any
such effects, so that how often it runs an extractor does not depend on what the extractor does.
-/

namespace BearerRole.Gate

set_option autoImplicit false

/-- A run of an extractor answers or fails, and may do anything else that the effects allow. -/
class Effects (m : Type → Type) extends Monad m where
  run (extractor : Extractor) (request : Request) (now : Token.Instant) : m (Except Fault Value)
  record (entry : LogRecord) : m Unit

instance : Monad Logged where
  pure := Logged.pure
  bind := Logged.bind

/-- The effects of a program: an extractor leaves the records of its own run. -/
@[default_instance]
instance : Effects Logged where
  run := Extractor.run
  record := Logged.withRecord ()

end BearerRole.Gate
