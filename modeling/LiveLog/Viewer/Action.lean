import LiveLog.Log.Download

/-!
# Actions

Everything a user can tell the viewer to do, whichever key says it.
-/

namespace LiveLog

/-- **What the viewer is told to do.** -/
inductive Action where
  | quit
  | toggleHelp
  /-- The help goes away, or else the oldest message. -/
  | dismiss
  | openSearch
  | closeSearch
  | searchInput (c : Char)
  | searchBackspace
  | searchClear
  | applyFilter
  | clearFilter
  | cycleLevelFilter
  | cycleCategoryFilter
  | scrollUp (rows : Nat)
  | scrollDown (rows : Nat)
  | scrollToTop
  | scrollToBottom
  | pageUp
  | pageDown
  | toggleAutoScroll
  | refreshLogs
  | refreshStats
  | clearServerLogs
  | download (format : LogFormat)
  /-- The records and counts of the viewer go, those of the server stay. -/
  | clearView
  /-- The screen is drawn again. -/
  | render
deriving DecidableEq, Repr

end LiveLog
