import LiveLog.Log.Record
import LiveLog.Log.Stats

/-!
# Running counters

How many records there were, in all and by bucket. Every record counts toward the total; one whose
level has no bucket counts nowhere else. A statistics snapshot overwrites the counters it names.
-/

namespace LiveLog

/-- **The running counters.** -/
structure Counters where
  total : Nat := 0
  debug : Nat := 0
  info : Nat := 0
  warning : Nat := 0
  error : Nat := 0
deriving DecidableEq, Repr

namespace Counters

/-- The counters after one more record. -/
def count (c : Counters) (r : Record) : Counters :=
  let c := { c with total := c.total + 1 }
  match r.severity with
  | some .debug => { c with debug := c.debug + 1 }
  | some .info => { c with info := c.info + 1 }
  | some .warning => { c with warning := c.warning + 1 }
  | some .error => { c with error := c.error + 1 }
  | none => c

/-- The counters after a snapshot: the counts that are present overwrite. -/
def overwrite (c : Counters) (s : Stats) : Counters :=
  { total := s.total.getD c.total, debug := s.debug.getD c.debug, info := s.info.getD c.info,
    warning := s.warning.getD c.warning, error := s.error.getD c.error }

/-- The counter of a bucket. -/
def get (c : Counters) : Severity → Nat
  | .debug => c.debug
  | .info => c.info
  | .warning => c.warning
  | .error => c.error

end Counters
end LiveLog
