/-!
# Styles

How a cell of the screen looks: its colours and the two modifiers that are used. A style leaves open
what it does not name, and putting one style over another keeps what the upper one leaves open.
-/

namespace LiveLog

/-- A colour of the terminal. `reset` is the terminal's own. -/
inductive Color where
  | reset
  | black
  | red
  | green
  | yellow
  | blue
  | magenta
  | cyan
  | white
  | darkGray
  | lightGreen
deriving DecidableEq, Repr

/-- The name of a colour. -/
def Color.name : Color → String
  | .reset => "Reset"
  | .black => "Black"
  | .red => "Red"
  | .green => "Green"
  | .yellow => "Yellow"
  | .blue => "Blue"
  | .magenta => "Magenta"
  | .cyan => "Cyan"
  | .white => "White"
  | .darkGray => "DarkGray"
  | .lightGreen => "LightGreen"

/-- **A style**: what it names and what it leaves open. -/
structure Style where
  foreground : Option Color := none
  background : Option Color := none
  bold : Bool := false
  blinking : Bool := false
deriving DecidableEq, Repr

namespace Style

/-- The style of a text colour. -/
def color (c : Color) : Style := { foreground := some c }

/-- A style in bold. -/
def inBold (s : Style) : Style := { s with bold := true }

/-- A style on a background. -/
def onBackground (s : Style) (c : Color) : Style := { s with background := some c }

/-- The names of the modifiers of a style. -/
def modifiers (s : Style) : List String :=
  (if s.bold then ["BOLD"] else []) ++ (if s.blinking then ["SLOW_BLINK"] else [])

end Style

/-- **A cell of the screen**: its symbol and its look. An untouched cell shows a blank. -/
structure Cell where
  symbol : String := " "
  foreground : Color := .reset
  background : Color := .reset
  bold : Bool := false
  blinking : Bool := false
deriving DecidableEq, Repr, Inhabited

namespace Cell

/-- The cell in a style. -/
def tint (c : Cell) (s : Style) : Cell :=
  { c with
    foreground := s.foreground.getD c.foreground
    background := s.background.getD c.background
    bold := c.bold || s.bold
    blinking := c.blinking || s.blinking }

/-- The look of a cell as a style that leaves nothing open. -/
def style (c : Cell) : Style :=
  { foreground := some c.foreground, background := some c.background, bold := c.bold,
    blinking := c.blinking }

end Cell
end LiveLog
