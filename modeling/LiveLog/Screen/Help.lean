import LiveLog.Screen.Layout
import LiveLog.Screen.Panel

/-!
# Help

A panel over the screen that says which key does what.
-/

namespace LiveLog
namespace Help

/-- The heading of a group of keys. -/
def heading (text : String) : Line := [⟨text, .color .yellow⟩]

/-- What a key does; the key is written at the right of eight columns. -/
def entry (key text : String) : Line :=
  let indent := String.ofList (List.replicate (8 - key.length) ' ')
  [⟨"  " ++ indent ++ key, .color .green⟩, ⟨"  " ++ text, .color .white⟩]

/-- An empty line. -/
def gap : Line := []

/-- **The text of the help.** -/
def lines : List Line :=
  [[⟨"Keybindings", Style.inBold {}⟩],
   gap,
   heading "Navigation",
   entry "j/↓" "Older",
   entry "k/↑" "Newer",
   entry "Ctrl+d" "Page down",
   entry "Ctrl+u" "Page up",
   entry "g" "Newest",
   entry "G" "Oldest",
   entry "f" "Toggle follow mode",
   gap,
   heading "Filters",
   entry "/" "Search messages",
   entry "l" "Cycle level filter",
   entry "t" "Cycle type filter",
   entry "n" "Clear filters",
   gap,
   heading "Server",
   entry "r" "Reload logs",
   entry "s" "Refresh stats",
   entry "d" "Download HTML",
   entry "D" "Download text",
   entry "X X" "Clear server logs",
   entry "c" "Clear local view",
   gap,
   entry "?" "Toggle this help",
   entry "Esc" "Close / dismiss",
   entry "q" "Quit"]

/-- The help in its panel. -/
def panel : Panel :=
  { lines, border := .color .cyan, title := some ⟨" Help ", (Style.color .cyan).inBold⟩ }

/-- **The help in the middle of the screen.** -/
def draw (screen : Rect) : Drawing :=
  let r := Layout.centered screen 50 30
  Drawing.wiped r ++ panel.draw r screen

end Help
end LiveLog
