/-!
# Log entries

What a scan notes while it runs.
-/

namespace TlsScan

/-- How important a log entry is. -/
inductive LogLevel where
  | info | warning | error
  deriving DecidableEq, Repr

/-- The word of a level. -/
def LogLevel.word : LogLevel → String
  | info => "INFO"
  | warning => "WARN"
  | error => "ERROR"

/-- **One note.** -/
structure LogEntry where
  level : LogLevel
  text : String
  deriving DecidableEq, Repr

namespace LogEntry

/-- A note about the normal course. -/
def info (text : String) : LogEntry := ⟨.info, text⟩

/-- A note about something suspicious. -/
def warning (text : String) : LogEntry := ⟨.warning, text⟩

/-- A note about a failure. -/
def error (text : String) : LogEntry := ⟨.error, text⟩

/-- The level and the text in one line. -/
def line (e : LogEntry) : String := e.level.word ++ " " ++ e.text

end LogEntry

end TlsScan
