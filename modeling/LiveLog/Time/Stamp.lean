import LiveLog.Text.Blank
import LiveLog.Time.Zone

/-!
# Time stamps

The two forms in which a server writes the time of a record. The **full** form has four, two and two
digits, a `T`, `t` or space, the time of day, an optional fraction of a second and the distance from
the meridian. The **plain** form is a date and a time of day without a distance; its numbers may be
shorter and may have blanks before them, the blank between date and time is any run of blanks or none,
and a year with a sign may be longer than four digits. What it writes is a time that clocks show, and a zone
says which instant that is.

Both admit second sixty, which stands for the second before it with a whole second of nanoseconds.
-/

namespace LiveLog.Stamp

/-- A reader of the front of a text: a result and the text after it. -/
abbrev Reader (α : Type) := List Char → Option (α × List Char)

/-- The number that decimal digits write. -/
def value (ds : List Char) : Nat := ds.foldl (fun n c => n * 10 + (c.toNat - '0'.toNat)) 0

/-- A number of at least `least` and at most `most` digits, as many as there are. -/
def number (least most : Nat) : Reader Nat := fun s =>
  let ds := (s.takeWhile Char.isDigit).take most
  if ds.length < least then none else some (value ds, s.drop ds.length)

/-- One given character. -/
def char (c : Char) : Reader Unit
  | [] => none
  | d :: rest => if c == d then some ((), rest) else none

/-- Whether a time of day exists; second sixty does. -/
def validClock (hour minute second : Nat) : Bool := hour ≤ 23 && minute ≤ 59 && second ≤ 60

/-- The instant of a date and time of day, with second sixty folded into the second before. -/
def instant (date : Date) (hour minute second nanos : Nat) (offset : Int) : Instant :=
  if second == 60 then Instant.ofClock date hour minute 59 (nanos + 1000000000) offset
  else Instant.ofClock date hour minute second nanos offset

/-! ## 1. The full form -/

/-- A fraction of a second in nanoseconds. Digits after the ninth are cut off. -/
def fraction : Reader Nat
  | '.' :: rest =>
    let all := rest.takeWhile Char.isDigit
    let ds := all.take 9
    if ds.isEmpty then none else some (value ds * Nat.pow 10 (9 - ds.length), rest.drop all.length)
  | rest => some (0, rest)

/-- The distance from the meridian in seconds, less than a day. The sign may be the typographic
    minus. -/
def offset : Reader Int := fun s =>
  match s with
  | 'Z' :: rest => some (0, rest)
  | 'z' :: rest => some (0, rest)
  | '+' :: rest => distance 1 rest
  | '-' :: rest => distance (-1) rest
  | '\u2212' :: rest => distance (-1) rest
  | _ => none
where
  /-- Hours and minutes, with a colon. -/
  distance (sign : Int) (s : List Char) : Option (Int × List Char) := do
    let (hours, s) ← number 2 2 s
    let (_, s) ← char ':' s
    let (minutes, s) ← number 2 2 s
    if hours ≤ 23 && minutes ≤ 59 then some (sign * (hours * 3600 + minutes * 60), s) else none

/-- The mark between date and time of day. -/
def divider : Reader Unit
  | c :: rest => if c == 'T' || c == 't' || c == ' ' then some ((), rest) else none
  | [] => none

/-- An instant in the full form. -/
def full (s : List Char) : Option Instant := do
  let (year, s) ← number 4 4 s
  let (_, s) ← char '-' s
  let (month, s) ← number 2 2 s
  let (_, s) ← char '-' s
  let (day, s) ← number 2 2 s
  let (_, s) ← divider s
  let (hour, s) ← number 2 2 s
  let (_, s) ← char ':' s
  let (minute, s) ← number 2 2 s
  let (_, s) ← char ':' s
  let (second, s) ← number 2 2 s
  let (nanos, s) ← fraction s
  let (offset, s) ← offset s
  let date ← Date.make? year month day
  if s.isEmpty && validClock hour minute second then
    some (instant date hour minute second nanos offset)
  else none

/-! ## 2. The plain form -/

/-- A number of one or two digits, blanks before it. -/
def short : Reader Nat := fun s => number 1 2 (s.dropWhile Text.isBlank)

/-- A year, blanks before it: at most four digits, or a sign and any number of digits. -/
def year : Reader Int := fun s =>
  match s.dropWhile Text.isBlank with
  | '-' :: rest => (number 1 rest.length rest).map fun (n, rest) => (-(n : Int), rest)
  | '+' :: rest => (number 1 rest.length rest).map fun (n, rest) => ((n : Int), rest)
  | rest => (number 1 4 rest).map fun (n, rest) => ((n : Int), rest)

/-- An instant in the plain form. -/
def plain (zone : Zone) (s : List Char) : Option Instant := do
  let (year, s) ← year s
  let (_, s) ← char '-' s
  let (month, s) ← short s
  let (_, s) ← char '-' s
  let (day, s) ← short s
  let (hour, s) ← short s
  let (_, s) ← char ':' s
  let (minute, s) ← short s
  let (_, s) ← char ':' s
  let (second, s) ← short s
  let date ← Date.make? year month day
  if s.isEmpty && validClock hour minute second then
    zone.instant? (instant date hour minute second 0 0)
  else none

/-- **The instant that a time stamp names**, in the full form or else in the plain one. -/
def parse (zone : Zone) (text : String) : Option Instant :=
  let s := Text.trimChars text.toList
  (full s).orElse fun _ => plain zone s

end LiveLog.Stamp
