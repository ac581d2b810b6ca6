import LiveLog.Net.ConnectionState
import LiveLog.View.Buffer
import LiveLog.Viewer.Notification

/-!
# The state of the viewer

What the viewer knows besides the log itself: how the connection stands, what the user is typing, which
filters were chosen, how far the table is scrolled, and what messages are shown.

Two pairs of fields look alike and are not. `searchInput` is being typed, `appliedSearch` is in effect.
`scroll` says how far down the table is, `following` whether it stays with the newest records.

The screen is drawn again only when the state is marked `stale`, so whatever changes what can be seen
has to mark it.

One thing is left out. A search is made into a pattern, and an engine may refuse a pattern that is too large for
it. Here every search makes a filter. So there is no message about a refused search in the state, nothing that
sets or takes back such a message, and no sign of it in the filter bar.
-/

namespace LiveLog

/-- **What the viewer knows besides the log.** -/
structure ViewerState where
  /-- The server that is watched. -/
  server : String
  connection : ConnectionState := .connecting
  /-- The number of the attempt that is coming, and how many there can be. -/
  reconnect : Option (Nat × Nat) := none
  notifications : Notifications := {}
  /-- Whether a search is being typed. -/
  searching : Bool := false
  searchInput : String := ""
  appliedSearch : String := ""
  level : Option String := none
  category : Option Category := none
  helpShown : Bool := false
  /-- How many visible records stand above the table. -/
  scroll : Nat := 0
  /-- Whether the table stays with the newest records. -/
  following : Bool := true
  /-- When the deletion of the server's log was asked for, while that can still be confirmed. -/
  clearArmedAt : Option Duration := none
  quitting : Bool := false
  /-- Whether the screen has to be drawn again. -/
  stale : Bool := true
deriving DecidableEq, Repr

namespace ViewerState

/-- The state at the start. -/
def new (server : String) (lifetime : Duration) : ViewerState :=
  { server, notifications := { lifetime } }

/-- The screen has to be drawn again. -/
def touch (s : ViewerState) : ViewerState := { s with stale := true }

/-! ## 1. The connection -/

/-- The connection says how it stands. An attempt that is coming is forgotten when one succeeded and
    when none is left. -/
def setConnection (s : ViewerState) (c : ConnectionState) : ViewerState :=
  { s with
    connection := c
    reconnect := if c.isOpen || c.isTerminal then none else s.reconnect
    stale := true }

/-- The connection will be tried again. -/
def setReconnect (s : ViewerState) (attempt maxAttempts : Nat) : ViewerState :=
  { s with reconnect := some (attempt, maxAttempts), stale := true }

/-- The attempt that is coming, unless the connection is open. -/
def reconnecting? (s : ViewerState) : Option (Nat × Nat) :=
  if s.connection.isOpen then none else s.reconnect

/-- **What the user reads about the connection.** -/
def connectionLabel (s : ViewerState) : String :=
  match s.reconnecting? with
  | some (attempt, most) => "Reconnecting... (" ++ toString attempt ++ "/" ++ toString most ++ ")"
  | none => s.connection.label

/-! ## 2. Messages -/

/-- A message is shown. -/
def notify (s : ViewerState) (kind : NotificationKind) (message : String) (now : Duration) : ViewerState :=
  { s with notifications := s.notifications.push kind message now, stale := true }

/-- Messages whose time is over go; the answer says whether there were any. -/
def expireNotifications (s : ViewerState) (now : Duration) : Bool × ViewerState :=
  let (removed, notifications) := s.notifications.expire now
  (removed, { s with notifications, stale := s.stale || removed })

/-- What the first press of the deleting key brings up. -/
def clearWarning : String := "Press X again to delete all server logs"

/-- **The server's log is deleted only on a second press**, made within the lifetime of the warning that
    the first one brings up. Either press uses up the one before. -/
def confirmClear (s : ViewerState) (now : Duration) : Bool × ViewerState :=
  let confirmed := s.clearArmedAt.any fun armed =>
    now.nanos - armed.nanos < s.notifications.lifetime.nanos
  if confirmed then (true, { s with clearArmedAt := none })
  else (false, { s.notify .warning clearWarning now with clearArmedAt := some now })

/-- The first press is forgotten. -/
def disarmClear (s : ViewerState) : ViewerState := { s with clearArmedAt := none }

/-! ## 3. Filters -/

/-- **The filter that the choices amount to.** -/
def filter (s : ViewerState) : Filter :=
  ((Filter.ofSearch s.appliedSearch).withLevel s.level).withCategory s.category

/-- Whether anything is chosen. -/
def hasFilter (s : ViewerState) : Bool :=
  !s.appliedSearch.isEmpty || s.level.isSome || s.category.isSome

/-- A search is typed, starting from the one in effect. -/
def openSearch (s : ViewerState) : ViewerState :=
  { s with searching := true, searchInput := s.appliedSearch }

/-- Typing ends, and the search in effect stays. -/
def closeSearch (s : ViewerState) : ViewerState := { s with searching := false, searchInput := "" }

/-- Typing ends, and what was typed takes effect. -/
def acceptSearch (s : ViewerState) : ViewerState :=
  { s with searching := false, appliedSearch := s.searchInput }

/-- A character is typed. -/
def typeChar (s : ViewerState) (c : Char) : ViewerState := { s with searchInput := s.searchInput.push c }

/-- The last character typed is taken back. -/
def eraseChar (s : ViewerState) : ViewerState :=
  { s with searchInput := String.ofList s.searchInput.toList.dropLast }

/-- All that was typed is taken back. -/
def eraseSearch (s : ViewerState) : ViewerState := { s with searchInput := "" }

/-- Nothing is chosen any more. -/
def clearFilter (s : ViewerState) : ViewerState :=
  { s with appliedSearch := "", searchInput := "", level := none, category := none }

/-- The levels that can be chosen, in the order of choosing. -/
def levelChoices : List String := ["DEBUG", "INFO", "WARNING", "ERROR"]

/-- The next choice of level; no level stands before the first and after the last. -/
def nextLevel : Option String → Option String
  | none => levelChoices.head?
  | some level => (levelChoices.dropWhile fun l => !Filter.sameAscii l level)[1]?

/-- The next level is chosen. -/
def cycleLevel (s : ViewerState) : ViewerState := { s with level := nextLevel s.level }

/-- The next category is chosen. -/
def cycleCategory (s : ViewerState) : ViewerState := { s with category := Category.next s.category }

/-! ## 4. Scrolling -/

/-- The furthest that the table can be asked to scroll. Drawing brings it back to the last row. -/
def furthestScroll : Nat := maxWord

/-- Towards newer records. The table follows again once it is at the newest. -/
def scrollUp (s : ViewerState) (rows : Nat) : ViewerState :=
  { s with scroll := s.scroll - rows, following := s.following || s.scroll ≤ rows }

/-- Towards older records. -/
def scrollDown (s : ViewerState) (rows : Nat) : ViewerState :=
  { s with scroll := min (s.scroll + rows) furthestScroll, following := false }

/-- **A record arrived.** A table that does not follow stays on its rows, which are one further down
    now if the record can be seen. -/
def recordArrived (s : ViewerState) (visible : Bool) : ViewerState :=
  if visible && !s.following then { s with scroll := min (s.scroll + 1) furthestScroll } else s

/-- The table is brought into a window of so many rows: at the newest record if it follows, and never
    below the last row. -/
def settleScroll (s : ViewerState) (visible rows : Nat) : ViewerState :=
  { s with scroll := if s.following then 0 else min s.scroll (visible - rows) }

end ViewerState
end LiveLog
