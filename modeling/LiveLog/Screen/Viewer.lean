import LiveLog.Screen.Help
import LiveLog.Screen.Row
import LiveLog.Screen.Scrollbar
import LiveLog.Screen.StatusBar
import LiveLog.Screen.Toast
import LiveLog.Viewer.Step

/-!
# The screen of the viewer

What the viewer looks like: a header with the connection and the counts, a bar with the filters while
there are any, the table with its scrollbar, and the status row; over them the messages and the help.

Drawing brings the scroll position into the table first, so drawing is a step of the viewer too.
-/

namespace LiveLog
namespace Viewer

/-! ## 1. The header -/

/-- The colour that shows how the connection stands. -/
def connectionColor (s : ViewerState) : Color :=
  if s.reconnecting?.isSome then .yellow else s.connection.color

/-- What stands between the parts of the header. -/
def divider : Span := ⟨" │ ", Theme.dimText⟩

/-- A count of the header and the label of its bucket. -/
def countSpans (label : String) (severity : Severity) (count : String) : Line :=
  [⟨label, (Style.color severity.color).inBold⟩, ⟨count, Theme.text⟩]

/-- **The line of the header.** -/
def headerLine (v : Viewer) : Line :=
  let counts := v.log.counters
  let color := connectionColor v.state
  [⟨"logwire", Theme.title⟩, divider, ⟨v.state.server, Theme.text⟩, divider, ⟨"● ", .color color⟩,
   ⟨v.state.connectionLabel, (Style.color color).inBold⟩, divider,
   ⟨"Total:", Theme.dimText⟩, ⟨toString counts.total ++ " ", Theme.text⟩] ++
  countSpans "ERR:" .error (toString counts.error ++ " ") ++
  countSpans "WRN:" .warning (toString counts.warning ++ " ") ++
  countSpans "INF:" .info (toString counts.info) ++
  match v.log.clients with
  | some n => [divider, ⟨toString n ++ " clients", Theme.text⟩]
  | none => []

/-! ## 2. The filter bar

No search is refused here (see the state of the viewer). So the bar has no message about a refused search, no red
border for one, and it is not shown because of one. -/

/-- Whether the bar with the filters is shown. -/
def showsFilterBar (s : ViewerState) : Bool := s.searching || s.hasFilter

/-- The search in the filter bar: the text being typed, or the one in effect. -/
def searchSpans (s : ViewerState) : Line :=
  if s.searching then
    [⟨" /", Theme.highlight⟩, ⟨s.searchInput, Theme.highlight⟩,
     ⟨"█", { Style.color .yellow with blinking := true }⟩]
  else
    [⟨" Search: ", Theme.dimText⟩,
     ⟨if s.appliedSearch.isEmpty then "-" else s.appliedSearch, Theme.highlight⟩]

/-- **The line of the filter bar.** -/
def filterLine (s : ViewerState) : Line :=
  let keys := if s.searching then "  [Enter] Apply  [Esc] Cancel" else "  [n] Clear  [/] Edit"
  searchSpans s ++
    [⟨"  Level: ", Theme.dimText⟩, ⟨s.level.getD "all", Theme.text⟩,
     ⟨"  Type: ", Theme.dimText⟩, ⟨(s.category.map (·.name)).getD "all", Theme.text⟩,
     ⟨keys, Theme.dimText⟩]

/-- The panel of the filter bar. -/
def filterPanel (s : ViewerState) : Panel :=
  { lines := [filterLine s]
    border := if s.searching then Theme.focusedBorder else Theme.border
    title := some ⟨" Filter ", Theme.title⟩ }

/-! ## 3. The table -/

/-- The rows that a table of some height has for records. -/
def tableRows (r : Rect) : Nat := r.height - 2

/-- The title of the table: how many records there are, and how many of them the filter lets through. -/
def tableTitle (log : LogView) : String :=
  if log.filter.isEmpty then " Logs (" ++ toString log.size ++ ") "
  else " Logs (" ++ toString log.visibleCount ++ " of " ++ toString log.size ++ ") "

/-- **The entries that a table of so many rows shows.** -/
def window (v : Viewer) (rows : Nat) : List Entry := (v.log.visible.drop v.state.scroll).take rows

/-- The panel of the table. -/
def tablePanel (v : Viewer) (r : Rect) : Panel :=
  { lines := (v.window (tableRows r)).map fun e => Row.ofRecord v.zone e.record v.log.filter (r.width - 4)
    border := Theme.border
    title := some ⟨tableTitle v.log, Theme.title⟩ }

/-- The scrollbar of the table, when not all visible records fit. -/
def drawScrollbar (v : Viewer) (r : Rect) : Drawing :=
  let rows := tableRows r
  let visible := v.log.visibleCount
  if rows < visible then
    Scrollbar.draw { positions := visible - rows, position := v.state.scroll } r.withoutEdges
  else []

/-! ## 4. The status row -/

/-- The right text of the status row. -/
def statusText (v : Viewer) : String :=
  toString v.log.visibleCount ++ "/" ++ toString v.log.cap ++ " shown │ " ++
    if v.state.following then "▲ follow" else "paused"

/-! ## 5. The screen -/

/-- The areas of the screen. -/
def layout (v : Viewer) (screen : Rect) : Layout := Layout.ofScreen screen (showsFilterBar v.state)

/-- The viewer with its table scrolled into a screen. -/
def settle (v : Viewer) (screen : Rect) : Viewer :=
  let rows := tableRows (v.layout screen).table
  { v with state := v.state.settleScroll v.log.visibleCount rows }

/-- **The log viewer on a screen**, without what lies over it. -/
def drawLog (v : Viewer) (screen : Rect) : Drawing :=
  let l := v.layout screen
  let header : Panel := { lines := [v.headerLine], border := Theme.border }
  let status : StatusBar := { hints := StatusBar.viewerHints, right := some v.statusText }
  header.draw l.header screen ++
    ((l.filterBar.map fun r => (filterPanel v.state).draw r screen).getD []) ++
    (v.tablePanel l.table).draw l.table screen ++ v.drawScrollbar l.table ++ status.draw l.status screen

/-- Everything on the screen. -/
def drawAll (v : Viewer) (screen : Rect) : Drawing :=
  v.drawLog screen ++ Toast.draw v.state.notifications screen ++
    if v.state.helpShown then Help.draw screen else []

/-- **Draws the viewer on a screen of a size.** Afterwards nothing is left to draw. -/
def render (v : Viewer) (width height : Nat) : Canvas × Viewer :=
  let screen := Rect.ofSize width height
  let v := v.settle screen
  ((Canvas.blank width height).paint (v.drawAll screen), { v with state := { v.state with stale := false } })

end Viewer
end LiveLog
