import LiveLog.Screen.Line
import LiveLog.Screen.Theme
import LiveLog.View.Filter

/-!
# Rows of the log table

A record as a row: the time of day, the level, the message with what a search found in it, and the
category at the right. Time, level and category have a fixed width, and the message gets the rest.

Texts are cut to columns, but filled up by characters, so a text with wide characters or with none in a
column can push what follows it aside.
-/

namespace LiveLog
namespace Row

/-! ## 1. Cutting and filling -/

/-- The characters that fit beside so many columns. -/
def fitting (width : Nat) : (used : Nat) → List Char → List Char
  | _, [] => []
  | used, c :: cs =>
    if width < used + Text.charColumns c then []
    else c :: fitting width (used + Text.charColumns c) cs

/-- **The longest start of a text that fits in some columns.** -/
def truncate (text : String) (width : Nat) : String := String.ofList (fitting width 0 text.toList)

/-- So many blanks. -/
def blanks (n : Nat) : String := String.ofList (List.replicate n ' ')

/-- A text filled up with blanks at the right. -/
def padRight (text : String) (width : Nat) : String := text ++ blanks (width - text.length)

/-- A text filled up with blanks at the left. -/
def padLeft (text : String) (width : Nat) : String := blanks (width - text.length) ++ text

/-! ## 2. Matches -/

/-- The characters in the first bytes of a text. -/
def takeBytes : Nat → List Char → List Char
  | _, [] => []
  | n, c :: cs => if n = 0 then [] else c :: takeBytes (n - c.utf8Size) cs

/-- The characters after the first bytes of a text. -/
def dropBytes : Nat → List Char → List Char
  | _, [] => []
  | n, c :: cs => if n = 0 then c :: cs else dropBytes (n - c.utf8Size) cs

/-- Some characters as a span, if there are any. -/
def spanOf (cs : List Char) (style : Style) : Line :=
  if cs.isEmpty then [] else [⟨String.ofList cs, style⟩]

/-- The rest of a text from a byte position on, with the matches in it marked. -/
def highlightFrom (base : Style) : (position : Nat) → List Char → List (Nat × Nat) → Line
  | _, cs, [] => spanOf cs base
  | position, cs, (start, stop) :: spans =>
    let found := dropBytes (start - position) cs
    spanOf (takeBytes (start - position) cs) base ++
      ⟨String.ofList (takeBytes (stop - start) found), Theme.searchMatch⟩ ::
        highlightFrom base stop (dropBytes (stop - start) found) spans

/-- **A text with what the filter's search found in it marked.** -/
def highlight (text : String) (filter : Filter) (base : Style) : Line :=
  highlightFrom base 0 text.toList (filter.spans text)

/-! ## 3. Rows -/

/-- The columns of the time. -/
def timeWidth : Nat := 8

/-- The columns of the level. -/
def levelWidth : Nat := 7

/-- The columns of the category. -/
def categoryWidth : Nat := 8

/-- What a row takes besides the message: three texts and a blank at each of their borders. -/
def fixedWidth : Nat := timeWidth + 1 + levelWidth + 1 + 1 + categoryWidth

/-- The time of a record: its time of day as clocks of the zone show it, or the start of its timestamp if that
    cannot be read. -/
def time (zone : Zone) (r : Record) : String :=
  match r.instant zone with
  | some t => (zone.shown t).clock
  | none => truncate r.timestamp timeWidth

/-- **The row of a record** in so many columns. -/
def ofRecord (zone : Zone) (r : Record) (filter : Filter) (width : Nat) : Line :=
  let room := width - fixedWidth
  let level := Text.upper (truncate r.level levelWidth)
  let message := truncate r.message room
  [⟨padRight (time zone r) timeWidth ++ " ", Theme.dimText⟩,
   ⟨padRight level levelWidth ++ " ", Theme.level r.severity⟩] ++
  highlight message filter (Theme.message r.severity) ++
  [⟨blanks (room - Text.columns message + 1), {}⟩,
   ⟨padLeft r.category.name categoryWidth, Theme.category r.category⟩]

end Row
end LiveLog
