/-!
# Log entries

What an operation reports about its progress: a list of entries in the order in which they
were made, each with a level and a text.
-/

namespace OffHours

/-- How much attention an entry asks for. -/
inductive Level where
  /-- Detail for tracing. -/
  | debug
  /-- Normal progress. -/
  | info
  /-- Something was skipped or replaced. -/
  | warn
  /-- Something failed. -/
  | error
  deriving DecidableEq, Repr

/-- The name of the level in a log line. -/
def Level.name : Level → String
  | .debug => "DEBUG"
  | .info => "INFO"
  | .warn => "WARN"
  | .error => "ERROR"

/-- One reported fact. -/
structure LogEntry where
  /-- How much attention it asks for. -/
  level : Level
  /-- What is reported. -/
  text : String
  deriving DecidableEq, Repr

/-- The entries of an operation, oldest first. -/
abbrev Log := List LogEntry

/-- The line of an entry: its level, a space and its text. -/
def LogEntry.line (entry : LogEntry) : String := entry.level.name ++ " " ++ entry.text

namespace Log

/-- One entry at the debug level. -/
def debug (text : String) : Log := [⟨.debug, text⟩]

/-- One entry at the info level. -/
def info (text : String) : Log := [⟨.info, text⟩]

/-- One entry at the warning level. -/
def warn (text : String) : Log := [⟨.warn, text⟩]

/-- One entry at the error level. -/
def error (text : String) : Log := [⟨.error, text⟩]

end Log

end OffHours
