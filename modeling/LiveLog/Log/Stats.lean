import LiveLog.Json.Decode

/-!
# Server statistics

A snapshot of the counts that a server keeps. Every count may be absent, and an absent count says
nothing: whoever takes a snapshot in leaves its own count as it is.
-/

namespace LiveLog

/-- **A statistics snapshot.** -/
structure Stats where
  total : Option Nat := none
  warning : Option Nat := none
  error : Option Nat := none
  info : Option Nat := none
  debug : Option Nat := none
  clients : Option Nat := none
deriving DecidableEq, Repr

namespace Stats

/-- The counts by their written names, in declared order. -/
def members (s : Stats) : List (String × Option Nat) :=
  [("totalLogs", s.total), ("warningCount", s.warning), ("errorCount", s.error),
    ("infoCount", s.info), ("debugCount", s.debug), ("clientCount", s.clients)]

/-- What is written of a snapshot: the counts that are present. -/
def present (s : Stats) : List (String × Json) :=
  s.members.filterMap fun m => m.2.map fun n => (m.1, Json.natural n)

/-- The document form. -/
def toJson (s : Stats) : Json := Json.ofMembers s.present

/-- The name that messages about a malformed snapshot use. -/
def shapeName : String := "StatsSnapshot"

/-- A count that may be null. -/
def count : Json → Decoded (Option Nat) := Json.asOptional Json.asWord64

/-- **A snapshot from a document.** -/
def ofJson : Json → Decoded Stats
  | .object ms => do
    let clients ← Json.member? ms "clientCount" count
    let debug ← Json.member? ms "debugCount" count
    let error ← Json.member? ms "errorCount" count
    let info ← Json.member? ms "infoCount" count
    let total ← Json.member? ms "totalLogs" count
    let warning ← Json.member? ms "warningCount" count
    pure { total := total.join, warning := warning.join, error := error.join, info := info.join,
           debug := debug.join, clients := clients.join }
  | .array xs => do
    let total ← Json.element? xs 0 count
    let warning ← Json.element? xs 1 count
    let error ← Json.element? xs 2 count
    let info ← Json.element? xs 3 count
    let debug ← Json.element? xs 4 count
    let clients ← Json.element? xs 5 count
    Json.noMoreThan xs 6
    pure { total := total.join, warning := warning.join, error := error.join, info := info.join,
           debug := debug.join, clients := clients.join }
  | x => x.wrongType (.structure shapeName)

/-- The members of a snapshot, for reading one straight from text. -/
def shape : Shape :=
  .record [("totalLogs", .whole), ("warningCount", .whole), ("errorCount", .whole),
    ("infoCount", .whole), ("debugCount", .whole), ("clientCount", .whole)]

end Stats
end LiveLog
