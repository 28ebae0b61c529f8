/-
Log entries.

Whatever the controllers report is kept as a list of entries in the order of writing, as part of
their results; nothing is printed.
-/
namespace BuildFleet

/-- How serious an entry is. -/
inductive Level where
  | debug
  | info
  | warning
  | error
deriving DecidableEq, Repr

/-- The name of a level. -/
def Level.name : Level → String
  | .debug => "DEBUG"
  | .info => "INFO"
  | .warning => "WARNING"
  | .error => "ERROR"

/-- One entry of a log. -/
structure LogEntry where
  level : Level
  message : String
deriving DecidableEq, Repr

end BuildFleet
