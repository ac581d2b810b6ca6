import LiveLog.Screen.Rect

/-!
# Layout

Where on the screen things are. The log viewer is a stack: a header, a bar for filters when it is
needed, the table, and one row of status. The table gets what the others leave. On a screen too low for
all of them the table keeps one row, and the others get their height in order.
-/

namespace LiveLog

/-- **The areas of the log viewer.** -/
structure Layout where
  header : Rect
  filterBar : Option Rect
  table : Rect
  status : Rect
deriving DecidableEq, Repr

namespace Layout

/-- **The areas of the log viewer** on a screen. -/
def ofScreen (r : Rect) (withFilterBar : Bool) : Layout :=
  let spare := r.height - 1
  let header := min 3 spare
  let bar := if withFilterBar then min 3 (spare - header) else 0
  let status := min 1 (spare - header - bar)
  let row (y height : Nat) : Rect := { r with y := r.y + y, height }
  let table := r.height - header - bar - status
  { header := row 0 header
    filterBar := if withFilterBar then some (row header bar) else none
    table := row (header + bar) table
    status := row (header + bar + table) status }

/-- An area in the middle of another, of a size at most, with two cells free on every side. -/
def centered (r : Rect) (width height : Nat) : Rect :=
  let width := min width (r.width - 4)
  let height := min height (r.height - 4)
  Rect.make (r.x + (r.width - width) / 2) (r.y + (r.height - height) / 2) width height

/-- The rows of a toast. -/
def toastHeight : Nat := 3

/-- **The place of a toast**: under the header at the right, one below the other, and none where it would
    reach into the last row. -/
def toast (r : Rect) (index width : Nat) : Option Rect :=
  let width := min width (r.width - 2)
  let y := r.y + 3 + index * toastHeight
  if width = 0 || y + toastHeight > r.y + (r.height - 1) then none
  else some (Rect.make (r.x + (r.width - (width + 1))) y width toastHeight)

end Layout
end LiveLog
