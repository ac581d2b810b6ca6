import LiveLog.Text.Blank
import LiveLog.Text.Case

/-!
# Severity

The four buckets that log records are counted in. A server names levels as it likes; a level belongs to
a bucket by its name, whatever its letter case and the blanks around it.
-/

namespace LiveLog

/-- A bucket of the running counters. -/
inductive Severity where
  | debug
  | info
  | warning
  | error
deriving DecidableEq, Repr

namespace Severity

/-- The buckets, mildest first. -/
def all : List Severity := [.debug, .info, .warning, .error]

/-- **The bucket of a level.** Levels of other names have none. -/
def ofLevel (level : String) : Option Severity :=
  match Text.upper (Text.trim level) with
  | "DEBUG" => some .debug
  | "INFO" => some .info
  | "WARN" => some .warning
  | "WARNING" => some .warning
  | "ERROR" => some .error
  | "FATAL" => some .error
  | _ => none

/-- The three-letter name of a bucket. -/
def shortName : Severity → String
  | .debug => "DBG"
  | .info => "INF"
  | .warning => "WRN"
  | .error => "ERR"

end Severity
end LiveLog
