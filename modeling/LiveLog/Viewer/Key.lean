import LiveLog.Viewer.Action

/-!
# Keys

Which key means what. A key press is a key and the modifiers held with it, and it has to match both: a
terminal reports a capital letter as that letter with shift held.

Keys have a meaning everywhere, and more meanings in the log table, which come first. While a search is
being typed, a few keys edit and end it, and every other character belongs to the searched text.
-/

namespace LiveLog

/-- A key. -/
inductive KeyCode where
  | char (c : Char)
  | enter
  | escape
  | backspace
  | up
  | down
  | left
  | right
  | home
  | «end»
  | pageUp
  | pageDown
  | tab
  | backTab
  | delete
  | insert
  | null
  | function (n : Nat)
  /-- A lock, a media key, a modifier by itself, or whatever else a keyboard has, by its name. -/
  | other (name : String)
deriving DecidableEq, Repr

/-- The modifiers held with a key. -/
structure Modifiers where
  control : Bool := false
  shift : Bool := false
  alt : Bool := false
  super : Bool := false
  hyper : Bool := false
  «meta» : Bool := false
deriving DecidableEq, Repr

/-- **A key press.** -/
structure KeyPress where
  code : KeyCode
  modifiers : Modifiers := {}
deriving DecidableEq, Repr

namespace KeyPress

/-- A key alone. -/
def plain (code : KeyCode) : KeyPress := { code }

/-- A character with control held. -/
def control (c : Char) : KeyPress := { code := .char c, modifiers := { control := true } }

/-- A character with shift held. -/
def shift (c : Char) : KeyPress := { code := .char c, modifiers := { shift := true } }

/-- The text a key press writes: a character with no modifier but shift. -/
def written? (k : KeyPress) : Option Char :=
  match k.code with
  | .char c => if k.modifiers = {} || k.modifiers = { shift := true } then some c else none
  | _ => none

end KeyPress

/-- The places that give keys a meaning of their own. -/
inductive KeyContext where
  | everywhere
  | logTable
  | searchLine
deriving DecidableEq, Repr

namespace KeyContext

open KeyPress in
/-- **The meanings of keys in a place.** -/
def bindings : KeyContext → List (KeyPress × Action)
  | .everywhere =>
    [(plain (.char '?'), .toggleHelp),
     (plain .escape, .dismiss),
     (control 'c', .quit),
     (plain (.char 'q'), .quit)]
  | .logTable =>
    [(plain (.char 'j'), .scrollDown 1),
     (plain .down, .scrollDown 1),
     (plain (.char 'k'), .scrollUp 1),
     (plain .up, .scrollUp 1),
     (control 'd', .pageDown),
     (control 'u', .pageUp),
     (plain .pageDown, .pageDown),
     (plain .pageUp, .pageUp),
     (plain (.char 'g'), .scrollToTop),
     (shift 'G', .scrollToBottom),
     (plain .home, .scrollToTop),
     (plain .end, .scrollToBottom),
     (plain (.char 'f'), .toggleAutoScroll),
     (plain (.char '/'), .openSearch),
     (plain (.char 'n'), .clearFilter),
     (plain (.char 'l'), .cycleLevelFilter),
     (plain (.char 't'), .cycleCategoryFilter),
     (plain (.char 'r'), .refreshLogs),
     (plain (.char 's'), .refreshStats),
     (plain (.char 'c'), .clearView),
     (shift 'X', .clearServerLogs),
     (plain (.char 'd'), .download .html),
     (shift 'D', .download .txt)]
  | .searchLine =>
    [(plain .enter, .applyFilter),
     (plain .escape, .closeSearch),
     (plain .backspace, .searchBackspace),
     (control 'u', .searchClear),
     (control 'c', .closeSearch)]

/-- **What a key press means in a place**, if need be by its meaning everywhere. -/
def action? (place : KeyContext) (k : KeyPress) : Option Action :=
  (place.bindings.lookup k).or (everywhere.bindings.lookup k)

end KeyContext

namespace KeyPress

/-- **What a key press means while a search is being typed.** -/
def searchAction? (k : KeyPress) : Option Action :=
  (KeyContext.searchLine.bindings.lookup k).or (k.written?.map .searchInput)

end KeyPress
end LiveLog
