import LiveLog.Log.Record
import LiveLog.Net.ConnectionState
import LiveLog.Screen.Style
import LiveLog.Viewer.Notification

/-!
# Theme

The colours of everything that is drawn.
-/

namespace LiveLog

/-- The colour of a bucket. -/
def Severity.color : Severity → Color
  | .debug => .cyan
  | .info => .green
  | .warning => .yellow
  | .error => .red

/-- The colour of a connection state. -/
def ConnectionState.color : ConnectionState → Color
  | .connecting => .yellow
  | .open => .green
  | .closed => .darkGray
  | .errored => .red
  | .failed => .magenta

/-- The colour of a category. -/
def Category.color : Category → Color
  | .auth => .magenta
  | .database => .blue
  | .network => .cyan
  | .system => .lightGreen
  | .other => .darkGray

namespace NotificationKind

/-- The colour of a kind of message. -/
def color : NotificationKind → Color
  | .info => .cyan
  | .success => .green
  | .warning => .yellow
  | .error => .red

/-- The title over a message. -/
def title : NotificationKind → String
  | .info => " Info "
  | .success => " Done "
  | .warning => " Warning "
  | .error => " Error "

end NotificationKind

namespace Theme

/-- Text. -/
def text : Style := .color .white

/-- Text of less weight. -/
def dimText : Style := .color .darkGray

/-- Text that was typed. -/
def highlight : Style := (Style.color .yellow).inBold

/-- Titles. -/
def title : Style := (Style.color .cyan).inBold

/-- Frames. -/
def border : Style := .color .darkGray

/-- The frame around what is being typed. -/
def focusedBorder : Style := .color .yellow

/-- What a search found. -/
def searchMatch : Style := ((Style.color .black).onBackground .yellow).inBold

/-- The status bar. -/
def statusBar : Style := (Style.color .darkGray).onBackground .darkGray

/-- Keys in the status bar. -/
def statusKey : Style := ((Style.color .yellow).onBackground .darkGray).inBold

/-- Levels; one of no bucket has less weight. -/
def level : Option Severity → Style
  | some s => (Style.color s.color).inBold
  | none => dimText

/-- Messages. Warnings and errors are coloured. -/
def message : Option Severity → Style
  | some .error => .color .red
  | some .warning => .color .yellow
  | _ => text

/-- Categories. -/
def category (c : Category) : Style := .color c.color

end Theme
end LiveLog
