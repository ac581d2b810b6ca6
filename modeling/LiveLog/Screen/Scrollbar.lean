import LiveLog.Screen.Canvas

/-!
# Scrollbars

A bar in the last column of an area shows what part of a long text is seen: an arrow at either end, and
between them a track with a thumb. Start and end of the thumb are where start and end of the seen part
fall on the track, each to the nearest cell; the thumb has at least one cell.
-/

namespace LiveLog

/-- **What a scrollbar tells**: how many positions there are, and which one is taken. -/
structure Scrollbar where
  positions : Nat
  position : Nat
deriving DecidableEq, Repr

namespace Scrollbar

/-- A quotient, to the nearest whole number; a half goes up. -/
def nearest (n d : Nat) : Nat := (2 * n + d) / (2 * d)

/-- The cells of the track above the thumb, and those of the thumb, for a track of some length in an area
    of some height. -/
def thumb (s : Scrollbar) (track height : Nat) : Nat × Nat :=
  let last := s.positions - 1
  let start := min s.position last
  let whole := last + height
  let first := min (nearest (start * track) whole) (track - 1)
  let past := min (nearest ((start + height) * track) whole) track
  (first, max (past - first) 1)

/-- The symbols of a bar, top to bottom. -/
def symbols (s : Scrollbar) (height : Nat) : List String :=
  let track := height - 2
  let (above, size) := s.thumb track height
  ["▲"] ++ List.replicate above "║" ++ List.replicate size "█" ++
    List.replicate (track - above - size) "║" ++ ["▼"]

/-- **A scrollbar at the right of an area.** -/
def draw (s : Scrollbar) (r : Rect) : Drawing :=
  if s.positions = 0 || r.height ≤ 2 || r.width = 0 then []
  else (s.symbols r.height).mapIdx fun j symbol => ⟨r.right - 1, r.y + j, .draw symbol {}⟩

end Scrollbar
end LiveLog
