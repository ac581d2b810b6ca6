import LiveLog.Screen.Canvas
import LiveLog.Text.Cluster

/-!
# Lines of text

A line is a list of spans, each a text in one style. What is drawn are its glyphs: the smallest pieces
that cannot be taken apart, each in the style of its span and some columns wide.

There are two ways to draw a line. `drawLine` gives every glyph its place and leaves alone the cell that
a wide one hides. `drawPlain` passes over glyphs with a control in them, and empties hidden cells.
-/

namespace LiveLog

/-- A text in one style. -/
structure Span where
  text : String
  style : Style := {}
deriving DecidableEq, Repr

/-- A line of text. -/
abbrev Line := List Span

/-- A piece of text that cannot be taken apart. -/
structure Glyph where
  symbol : String
  style : Style
deriving DecidableEq, Repr

namespace Glyph

/-- The columns that a glyph takes. -/
def columns (g : Glyph) : Nat := Text.columns g.symbol

/-- Whether a glyph has a control in it. -/
def hasControl (g : Glyph) : Bool := g.symbol.toList.any Text.isControl

end Glyph

namespace Span

/-- The columns of a span. -/
def columns (s : Span) : Nat := Text.columns s.text

/-- The glyphs of a span. -/
def glyphs (s : Span) : List Glyph := (Text.clusters s.text).map fun symbol => { symbol, style := s.style }

end Span

namespace Line

/-- The columns of a line. -/
def columns (l : Line) : Nat := (l.map (·.columns)).foldr (· + ·) 0

/-- The glyphs of a line. A line feed is no glyph: it would end the line. -/
def glyphs (l : Line) : List Glyph := l.flatMap fun s => s.glyphs.filter (·.symbol != "\n")

end Line

namespace Glyph

/-- **The glyphs that fit beside those before them.** The first that does not fit ends the line, except
    that one too wide for the whole line is passed over. -/
def fitting (width : Nat) : (used : Nat) → List Glyph → List Glyph
  | _, [] => []
  | used, g :: gs =>
    if width < g.columns then fitting width used gs
    else if width < used + g.columns then []
    else g :: fitting width (used + g.columns) gs

/-- Glyphs side by side from a place on. A glyph of no column is not drawn. -/
def sideBySide (y : Nat) : (x : Nat) → List Glyph → Drawing
  | _, [] => []
  | x, g :: gs =>
    if g.columns = 0 then sideBySide y x gs
    else ⟨x, y, .draw g.symbol g.style⟩ :: sideBySide y (x + g.columns) gs

/-- Glyphs side by side in so many columns, with hidden cells emptied, and the column after them. -/
def emptied (y : Nat) : (room x : Nat) → List Glyph → Drawing × Nat
  | _, x, [] => ([], x)
  | room, x, g :: gs =>
    if g.columns = 0 || g.hasControl then emptied y room x gs
    else if room < g.columns then ([], x)
    else
      let (rest, last) := emptied y (room - g.columns) (x + g.columns) gs
      let hidden := Drawing.wiped { x := x + 1, y, width := g.columns - 1, height := 1 }
      (⟨x, y, .draw g.symbol g.style⟩ :: (hidden ++ rest), last)

end Glyph

namespace Line

/-- **A line in the first row of an area**, as far as it fits. -/
def draw (l : Line) (r : Rect) : Drawing :=
  Glyph.sideBySide r.y r.x (Glyph.fitting r.width 0 l.glyphs)

/-- Lines in the rows of an area, as far as they fit. -/
def drawAll (ls : List Line) (r : Rect) : Drawing :=
  if r.isEmpty then []
  else ((ls.take r.height).mapIdx fun j l => l.draw { r with y := r.y + j }).flatten

/-- **A line from a place on**, in so many columns and short of the right edge. A span ends where no
    glyph of it fits, and the next one may still have one that does. -/
def drawPlain (right y : Nat) : (room x : Nat) → Line → Drawing
  | _, _, [] => []
  | room, x, s :: l =>
    if room = 0 then []
    else
      let (strokes, last) := Glyph.emptied y (min room (right - x)) x s.glyphs
      strokes ++ drawPlain right y (room - (last - x)) last l

end Line
end LiveLog
