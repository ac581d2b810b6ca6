import LiveLog.Screen.Rect
import LiveLog.Screen.Style
import LiveLog.Text.Columns

/-!
# Drawing

A drawing is a list of strokes, each of which changes one cell; later strokes go over earlier ones. It
says which cells it touches by itself, whatever screen it is meant for, so that a drawing can be asked
whether it stays inside.

Painting carries out the strokes. A terminal then shows the cells in order, and a symbol of two columns
hides the cell right of it, whatever was drawn there.
-/

namespace LiveLog

/-- What a stroke does to its cell. -/
inductive Brush where
  /-- The cell becomes an untouched one. -/
  | wipe
  /-- The cell keeps its symbol. -/
  | tint (style : Style)
  /-- The cell gets a symbol and a style over its own. -/
  | draw (symbol : String) (style : Style)
deriving DecidableEq, Repr

/-- **A change of one cell.** -/
structure Stroke where
  x : Nat
  y : Nat
  brush : Brush
deriving DecidableEq, Repr

/-- The strokes of a drawing, first to last. -/
abbrev Drawing := List Stroke

/-- The cell after a brush went over it. -/
def Brush.over : Brush → Cell → Cell
  | .wipe, _ => {}
  | .tint style, c => c.tint style
  | .draw symbol style, c => { c.tint style with symbol }

/-- Whether a stroke stays within an area. -/
def Stroke.isInside (s : Stroke) (r : Rect) : Bool :=
  r.x ≤ s.x && s.x < r.right && r.y ≤ s.y && s.y < r.bottom

namespace Drawing

/-- Whether a drawing stays within an area. -/
def isInside (d : Drawing) (r : Rect) : Bool := d.all (·.isInside r)

/-- All cells of an area in a style. -/
def tinted (r : Rect) (style : Style) : Drawing := r.cells.map fun c => ⟨c.1, c.2, .tint style⟩

/-- All cells of an area as untouched ones. -/
def wiped (r : Rect) : Drawing := r.cells.map fun c => ⟨c.1, c.2, .wipe⟩

/-- One symbol in every cell of an area. -/
def filled (r : Rect) (symbol : String) (style : Style) : Drawing :=
  r.cells.map fun c => ⟨c.1, c.2, .draw symbol style⟩

end Drawing

/-- **A screen of cells**, row by row. -/
structure Canvas where
  width : Nat
  height : Nat
  cells : Array Cell
deriving Repr

namespace Canvas

/-- An untouched screen. -/
def blank (width height : Nat) : Canvas :=
  { width, height, cells := Array.replicate (width * height) {} }

/-- The screen after a stroke. A stroke outside of it changes nothing. -/
def stroke (c : Canvas) (s : Stroke) : Canvas :=
  if s.x < c.width && s.y < c.height then
    { c with cells := c.cells.modify (s.y * c.width + s.x) s.brush.over }
  else c

/-- **The screen with a drawing on it.** -/
def paint (c : Canvas) (d : Drawing) : Canvas := d.foldl stroke c

/-- The cells as a terminal shows them, after the symbol before them. -/
def shownFrom (before : String) : List Cell → List Cell
  | [] => []
  | c :: cs => (if Text.columns before ≥ 2 then {} else c) :: shownFrom c.symbol cs

/-- The rows of so many cells. -/
def rowsOf (width : Nat) : (height : Nat) → List Cell → List (List Cell)
  | 0, _ => []
  | height + 1, cells => cells.take width :: rowsOf width height (cells.drop width)

/-- **The rows that a terminal shows.** -/
def rows (c : Canvas) : List (List Cell) :=
  rowsOf c.width c.height (shownFrom "" c.cells.toList)

end Canvas

namespace Cell

/-- The text of a row of cells, with a symbol for every column. -/
def text (row : List Cell) : String := String.join (row.map (·.symbol))

/-- The text of a row as it is printed: a symbol of two columns leaves no room for the next. -/
def printed : List Cell → String
  | [] => ""
  | c :: cs =>
    if Text.columns c.symbol ≥ 2 then c.symbol ++ printed cs.tail else c.symbol ++ printed cs
termination_by cs => cs.length

end Cell

end LiveLog
