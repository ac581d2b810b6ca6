import LiveLog.Screen.Line

/-!
# Panels

A panel is a frame of one cell around lines of text, with a title in its upper edge.
-/

namespace LiveLog

/-- **A framed area of text.** -/
structure Panel where
  lines : List Line
  border : Style := {}
  title : Option Span := none
deriving DecidableEq, Repr

namespace Panel

/-- The frame of an area: its edges, then its corners. -/
def frame (r : Rect) (style : Style) : Drawing :=
  let left : Rect := { r with width := 1 }
  let top : Rect := { r with height := 1 }
  let right : Rect := { r with x := r.right - 1, width := 1 }
  let bottom : Rect := { r with y := r.bottom - 1, height := 1 }
  Drawing.filled left "│" style ++ Drawing.filled top "─" style ++ Drawing.filled right "│" style ++
    Drawing.filled bottom "─" style ++
    [⟨r.right - 1, r.bottom - 1, .draw "┘" style⟩, ⟨r.right - 1, r.y, .draw "┐" style⟩,
     ⟨r.x, r.bottom - 1, .draw "└" style⟩, ⟨r.x, r.y, .draw "┌" style⟩]

/-- A title in the upper edge, between the corners. -/
def drawTitle (r : Rect) (title : Span) : Drawing :=
  Line.draw [title] { x := r.x + 1, y := r.y, width := r.width - 2, height := 1 }

/-- **A panel in an area**, as far as the area lies on the screen. -/
def draw (p : Panel) (area screen : Rect) : Drawing :=
  let r := area.clip screen
  if r.isEmpty then []
  else frame r p.border ++ (p.title.map (drawTitle r)).getD [] ++ Line.drawAll p.lines r.inner

end Panel
end LiveLog
