import LiveLog.Screen.Line
import LiveLog.Screen.Theme

/-!
# Status bar

One row with hints at the left, each a key and what it does, and a text at the right. The right text is
left out unless two columns stay free between it and the hints.
-/

namespace LiveLog

/-- What a key does, in a word. -/
structure KeyHint where
  key : String
  text : String
deriving DecidableEq, Repr

/-- **A row of status.** -/
structure StatusBar where
  hints : List KeyHint
  right : Option String := none
deriving DecidableEq, Repr

namespace StatusBar

/-- The hints of the log viewer. -/
def viewerHints : List KeyHint :=
  [⟨"/", "Search"⟩, ⟨"l", "Level"⟩, ⟨"t", "Type"⟩, ⟨"r", "Refresh"⟩, ⟨"d/D", "Download"⟩, ⟨"?", "Help"⟩,
   ⟨"q", "Quit"⟩]

/-- A hint as spans. -/
def hintSpans (h : KeyHint) : Line :=
  [⟨"[" ++ h.key ++ "]", Theme.statusKey⟩, ⟨h.text, Theme.statusBar⟩]

/-- The hints as a line. -/
def line (hints : List KeyHint) : Line :=
  [⟨" ", Theme.statusBar⟩].intercalate (hints.map hintSpans)

/-- Columns as a position on a screen: counted in a word of 16 bits. -/
def word (columns : Nat) : Nat := columns % (Rect.limit + 1)

/-- **The bar in an area of a screen.** -/
def draw (b : StatusBar) (r screen : Rect) : Drawing :=
  let hints := line b.hints
  let right : Drawing :=
    match b.right with
    | none => []
    | some text =>
      let columns := word (Text.columns text)
      let x := r.x + (r.width - (columns + 1))
      if x > r.x + word hints.columns + 2 then
        Line.drawPlain screen.right r.y columns x [⟨text, Theme.statusBar⟩]
      else []
  Drawing.tinted (r.clip screen) Theme.statusBar ++
    Line.drawPlain screen.right r.y (r.width - 2) (r.x + 1) hints ++ right

end StatusBar
end LiveLog
