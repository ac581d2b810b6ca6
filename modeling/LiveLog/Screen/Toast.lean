import LiveLog.Screen.Layout
import LiveLog.Screen.Panel
import LiveLog.Screen.Theme

/-!
# Toasts

Messages to the user, each in a small panel over the screen, the oldest on top. The panel is as wide as
its message, within bounds; messages that find no place are not shown.
-/

namespace LiveLog
namespace Toast

/-- The columns that a toast asks for: its message and the frame around it, counted in a word of 16 bits
    and brought within bounds. -/
def width (n : Notification) : Nat :=
  let limit := Rect.limit + 1
  min (max ((Text.columns n.message % limit + 4) % limit) 20) 48

/-- A message in its panel. -/
def panel (n : Notification) : Panel :=
  { lines := [[⟨n.message, Theme.text⟩]]
    border := .color n.kind.color
    title := some ⟨n.kind.title, (Style.color n.kind.color).inBold⟩ }

/-- Messages from a slot on, up to the first that has no place. -/
def drawFrom (screen : Rect) : (slot : Nat) → List Notification → Drawing
  | _, [] => []
  | slot, n :: ns =>
    match Layout.toast screen slot (width n) with
    | none => []
    | some r => Drawing.wiped r ++ (panel n).draw r screen ++ drawFrom screen (slot + 1) ns

/-- **The messages of a queue.** -/
def draw (q : Notifications) (screen : Rect) : Drawing := drawFrom screen 0 q.items

end Toast
end LiveLog
