import LiveLog.View.Counters
import LiveLog.View.Filter

/-!
# The log view

The records that can be shown, newest first and at most `cap` of them. Every record that ever enters
gets the next number, and no number is used twice, not even after the view was cleared.

An entry carries whether it passes the current filter. The mark is set when a record enters and set
anew for every entry when the filter changes, so showing the view never evaluates a filter.
-/

namespace LiveLog

/-- A buffered record: its number, the record, and whether the filter lets it through. -/
structure Entry where
  id : Nat
  record : Record
  visible : Bool
deriving DecidableEq, Repr

/-- **The view of a log.** -/
structure LogView where
  /-- Newest first. -/
  entries : List Entry := []
  cap : Nat
  nextId : Nat := 0
  counters : Counters := {}
  clients : Option Nat := none
  filter : Filter := {}
deriving DecidableEq, Repr

namespace LogView

/-- How many records a view keeps when nothing else is asked for. -/
def defaultCap : Nat := 1000

/-- An empty view. It keeps at least one record. -/
def new (cap : Nat) : LogView := { cap := max cap 1 }

/-- **A record enters at the front**; beyond the cap the oldest entry leaves. -/
def ingest (v : LogView) (r : Record) : LogView :=
  { v with
    counters := v.counters.count r
    nextId := v.nextId + 1
    entries := ({ id := v.nextId, record := r, visible := v.filter.passes r } :: v.entries).take v.cap }

/-- A statistics snapshot overwrites the counts it has. -/
def ingestStats (v : LogView) (s : Stats) : LogView :=
  { v with counters := v.counters.overwrite s, clients := s.clients.or v.clients }

/-- Another filter; every entry is marked anew. -/
def setFilter (v : LogView) (f : Filter) : LogView :=
  { v with
    filter := f
    entries := v.entries.map fun e => { e with visible := f.passes e.record } }

/-- No entries and no counts. The number of clients, the filter and the numbering stay. -/
def clear (v : LogView) : LogView := { v with entries := [], counters := {} }

/-- **A pulled snapshot takes the place of entries and counts.** It is newest first, so its last record
    enters first. -/
def replaceWith (v : LogView) (records : List Record) : LogView :=
  records.reverse.foldl ingest v.clear

/-- The entries that pass the filter, newest first. -/
def visible (v : LogView) : List Entry := v.entries.filter (·.visible)

/-- The records that pass the filter, newest first. -/
def visibleRecords (v : LogView) : List Record := v.visible.map (·.record)

/-- How many entries pass the filter. -/
def visibleCount (v : LogView) : Nat := v.visible.length

/-- Whether the newest entry passes the filter; an empty view has none. -/
def newestIsVisible (v : LogView) : Bool :=
  match v.entries with
  | e :: _ => e.visible
  | [] => false

/-- How many records are buffered. -/
def size (v : LogView) : Nat := v.entries.length

end LogView
end LiveLog
