/-!
# Tables of characters

Two shapes of table that the standard properties of characters are written in: a list of **ranges**,
for a property that a character has or lacks, and a list of **runs**, for a mapping that moves
neighbouring characters by one distance.

Both are plain lists of numbers that are searched from the front. Tables are a few hundred rows long,
and the characters that fill most texts are answered before a table is opened.
-/

namespace LiveLog.Text

/-- A row of a property table: the first and the last code point of a range. -/
abbrev Range := Nat × Nat

/-- Whether a code point lies in one of the ranges. -/
def Range.covers (table : List Range) (n : Nat) : Bool :=
  table.any fun r => r.1 ≤ n && n ≤ r.2

/-- A row of a mapping table: first code point, last code point, step, and the image of the first. -/
abbrev Run := Nat × Nat × Nat × Nat

/-- The image of a code point under one row, if the row moves it. -/
def Run.moved? (r : Run) (n : Nat) : Option Nat :=
  let (first, last, step, image) := r
  if first ≤ n && n ≤ last && (n - first) % step == 0 then some (image + (n - first)) else none

/-- **The image of a character**: by the first row that moves it, else the character itself. -/
def Run.image (table : List Run) (c : Char) : Char :=
  match table.findSome? (Run.moved? · c.toNat) with
  | some n => Char.ofNat n
  | none => c

end LiveLog.Text
