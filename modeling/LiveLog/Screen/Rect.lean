/-!
# Rectangles

Areas of the screen, by the cell at their upper left and their size. Positions and sizes are counted in
words of 16 bits, and no area reaches beyond the last position.
-/

namespace LiveLog

/-- **An area of the screen.** -/
structure Rect where
  x : Nat
  y : Nat
  width : Nat
  height : Nat
deriving DecidableEq, Repr

namespace Rect

/-- The last position. -/
def limit : Nat := 65535

/-- The area of a size at a position, as far as positions go. -/
def make (x y width height : Nat) : Rect :=
  { x, y, width := min width (limit - x), height := min height (limit - y) }

/-- A whole screen. -/
def ofSize (width height : Nat) : Rect := { x := 0, y := 0, width, height }

/-- The first column right of an area. -/
def right (r : Rect) : Nat := r.x + r.width

/-- The first row below an area. -/
def bottom (r : Rect) : Nat := r.y + r.height

/-- Whether an area has no cell. -/
def isEmpty (r : Rect) : Bool := r.width == 0 || r.height == 0

/-- The area within a frame of one cell. -/
def inner (r : Rect) : Rect :=
  { x := min (r.x + 1) r.right, y := min (r.y + 1) r.bottom, width := r.width - 2, height := r.height - 2 }

/-- The area without its first and its last row. -/
def withoutEdges (r : Rect) : Rect :=
  if r.height < 2 then { x := 0, y := 0, width := 0, height := 0 }
  else { r with y := r.y + 1, height := r.height - 2 }

/-- The part of an area that lies in another. -/
def clip (r bounds : Rect) : Rect :=
  let x := max r.x bounds.x
  let y := max r.y bounds.y
  { x, y, width := min r.right bounds.right - x, height := min r.bottom bounds.bottom - y }

/-- The cells of an area, row by row. -/
def cells (r : Rect) : List (Nat × Nat) :=
  (List.range r.height).flatMap fun j => (List.range r.width).map fun i => (r.x + i, r.y + j)

end Rect
end LiveLog
