/-!
# Log entries

What a run tells its operator: a level and a text.
-/

namespace Courier.Log

/-- How much a line matters. -/
inductive Level where
  | debug
  | info
  | warn
  | error
  deriving DecidableEq, Repr

/-- A line of the log. -/
structure Entry where
  level : Level
  text : String
  deriving DecidableEq, Repr

/-- A line on details. -/
def debug (text : String) : Entry := ⟨.debug, text⟩

/-- A line on what goes on. -/
def info (text : String) : Entry := ⟨.info, text⟩

/-- A line on what somebody may want to look into. -/
def warn (text : String) : Entry := ⟨.warn, text⟩

/-- A line on what has gone wrong. -/
def error (text : String) : Entry := ⟨.error, text⟩

/-- The name of a level, as it stands in front of a line. -/
def Level.name : Level → String
  | .debug => "DEBUG"
  | .info => "INFO"
  | .warn => "WARN"
  | .error => "ERROR"

/-- The line with its level in front. -/
def Entry.line (e : Entry) : String := e.level.name ++ " " ++ e.text

end Courier.Log
