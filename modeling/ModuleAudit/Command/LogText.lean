import ModuleAudit.Inspection.Basic

/-!
# The log as text

How much of the log is shown, and how, depends on how often more of it was asked for: at first only
warnings and errors as they are, then all but details under their level, and at last everything with
time, level and source.
-/

namespace ModuleAudit

/-- The word for a level. -/
def LogLevel.word : LogLevel → String
  | debug => "DEBUG"
  | info => "INFO"
  | warning => "WARNING"
  | error => "ERROR"

/-- The rank of a level: the more it matters, the higher. -/
def LogLevel.rank : LogLevel → Nat
  | debug => 0
  | info => 1
  | warning => 2
  | error => 3

/-- What a part of the program is called in the log. -/
def LogSource.word : LogSource → String
  | program => "connectorlint"
  | engine => "connectorlint.core.engine"
  | rootResolution => "connectorlint.runtimes.supaflow.adapter"
  | fileSearch => "connectorlint.scanners.locator"
  | poms => "connectorlint.scanners.maven"
  | buildChecks => "connectorlint.rules.crosscutting"

namespace Command

/-- The least level that is shown. -/
def leastLevel : (verbosity : Nat) → LogLevel
  | 0 => .warning
  | 1 => .info
  | _ => .debug

/-- A line of the log, written at a time of day. -/
def logText (verbosity : Nat) (time : String) (l : LogLine) : String :=
  match verbosity with
  | 0 => l.message ++ "\n"
  | 1 => "[" ++ l.level.word ++ "] " ++ l.message ++ "\n"
  | _ => time ++ " [" ++ l.level.word ++ "] " ++ l.source.word ++ ": " ++ l.message ++ "\n"

/-- The lines of the log that are shown. -/
def shownLog (verbosity : Nat) (time : String) (log : List LogLine) : String :=
  String.join ((log.filter fun l => (leastLevel verbosity).rank ≤ l.level.rank).map
    (logText verbosity time))

end Command

end ModuleAudit
