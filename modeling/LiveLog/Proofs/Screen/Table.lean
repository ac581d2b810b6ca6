import LiveLog.Proofs.Time.Clock
import LiveLog.Screen.Row

/-!
# Columns of the log table

A row measures its texts in three ways. It cuts a text by what its characters take one by one, it fills time
and level up by the number of their characters, and it fills the message up by the columns of the whole text.
On most texts the three agree, and then the table has its columns. They part on a wide character (two columns,
one character), on a mark (no column, one character), on a control (nothing when it is cut, a column in a
text), on pictures that are asked for or joined, and on a letter whose capital form is several letters, for a
level is cut before it is put in capitals.

So the columns of a row are read off as they are (`columns_ofRecord`), and a row lines up exactly if each field
takes what was reserved for it (`linesUp_iff`). The message gets this right for all characters that do not
change their neighbours, wide ones and marks among them (`Steady.fills_message`), however the search cuts it
into spans, because it is filled up by columns. Time and level get it right for characters of one cell only. A
time that can be read is written in such characters, so it is the level, and a time that cannot be read, that
move the rest of a row.
-/

namespace LiveLog

/-! ## 1. Lines -/

namespace Line

theorem columns_nil : columns [] = 0 := rfl

theorem columns_cons (s : Span) (l : Line) : columns (s :: l) = s.columns + columns l := rfl

theorem columns_append (l m : Line) : columns (l ++ m) = columns l + columns m := by
  induction l with
  | nil => exact (Nat.zero_add _).symm
  | cons s l ih =>
    have hcons : columns (s :: l ++ m) = s.columns + columns (l ++ m) := rfl
    rw [hcons, ih, columns_cons, Nat.add_assoc]

/-- The text of a line. -/
def chars (l : Line) : List Char := l.flatMap fun s => s.text.toList

theorem chars_append (l m : Line) : chars (l ++ m) = l.chars ++ m.chars := List.flatMap_append

theorem chars_cons (s : Span) (l : Line) : chars (s :: l) = s.text.toList ++ l.chars := List.flatMap_cons

/-- **However a text is cut into spans, characters that stand alone take what they take one by one.** -/
theorem columns_of_standsAlone {l : Line} (h : ∀ c ∈ l.chars, Text.standsAlone c = true) :
    l.columns = Text.cells l.chars := by
  induction l with
  | nil => rfl
  | cons s l ih =>
    rw [chars_cons] at h
    have hspan : s.columns = Text.cells s.text.toList :=
      Text.columns_of_standsAlone fun c hc => h c (List.mem_append_left _ hc)
    have hrest : columns l = Text.cells (chars l) := ih fun c hc => h c (List.mem_append_right _ hc)
    rw [columns_cons, chars_cons, Text.cells_append, hspan, hrest]

end Line

namespace Row

/-! ## 2. Cutting -/

theorem fitting_isPrefix (width used : Nat) (cs : List Char) : fitting width used cs <+: cs := by
  induction cs generalizing used with
  | nil => exact List.prefix_rfl
  | cons c cs ih =>
    rw [fitting]
    split
    case isTrue => exact List.nil_prefix
    case isFalse => exact List.cons_prefix_cons.mpr ⟨rfl, ih _⟩

/-- **What fits takes no more columns than there are.** -/
theorem cells_fitting_le {width used : Nat} (cs : List Char) (h : used ≤ width) :
    used + Text.cells (fitting width used cs) ≤ width := by
  induction cs generalizing used with
  | nil => exact h
  | cons c cs ih =>
    rw [fitting]
    split
    case isTrue => exact h
    case isFalse hfits =>
      have hrest := ih (Nat.le_of_not_lt hfits)
      rw [Text.cells_cons]
      omega

theorem toList_truncate (text : String) (width : Nat) :
    (truncate text width).toList = fitting width 0 text.toList := String.toList_ofList

theorem cells_truncate_le (text : String) (width : Nat) : Text.cells (truncate text width).toList ≤ width := by
  have hle := cells_fitting_le text.toList (Nat.zero_le width)
  rwa [Nat.zero_add, ← toList_truncate] at hle

theorem truncate_isPrefix (text : String) (width : Nat) : (truncate text width).toList <+: text.toList := by
  rw [toList_truncate]
  exact fitting_isPrefix width 0 text.toList

theorem mem_of_mem_truncate {text : String} {width : Nat} {c : Char} (h : c ∈ (truncate text width).toList) :
    c ∈ text.toList := (truncate_isPrefix text width).subset h

/-! ## 3. Filling -/

theorem columnsFrom_blanks (n : Nat) : Text.columnsFrom (blanks n).toList = ((n : Int), .other) := by
  rw [blanks, String.toList_ofList, Text.columnsFrom_replicate_blank]

theorem columns_blanks (n : Nat) : Text.columns (blanks n) = n := by
  rw [Text.columns, columnsFrom_blanks, Int.toNat_natCast]

/-- **A text is filled up by characters**, not by columns. -/
theorem columns_padRight (text : String) (width : Nat) :
    Text.columns (padRight text width) = Text.columns text + (width - text.length) := by
  rw [padRight, Text.columns_append (congrArg Prod.snd (columnsFrom_blanks _)), columns_blanks]

theorem columns_append_blank (text : String) : Text.columns (text ++ " ") = Text.columns text + 1 :=
  Text.columns_append rfl

/-! ## 4. Matches -/

theorem takeBytes_append_dropBytes (n : Nat) (cs : List Char) : takeBytes n cs ++ dropBytes n cs = cs := by
  induction cs generalizing n with
  | nil => rfl
  | cons c cs ih =>
    rw [takeBytes, dropBytes]
    split
    case isTrue => rfl
    case isFalse => rw [List.cons_append, ih]

theorem chars_spanOf (cs : List Char) (style : Style) : Line.chars (spanOf cs style) = cs := by
  unfold spanOf
  split
  case isTrue hempty => exact (List.isEmpty_iff.mp hempty).symm
  case isFalse => rw [Line.chars_cons, String.toList_ofList]; exact List.append_nil cs

/-- **Marking matches changes no text.** -/
theorem chars_highlightFrom (base : Style) (position : Nat) (cs : List Char) (spans : List (Nat × Nat)) :
    Line.chars (highlightFrom base position cs spans) = cs := by
  induction spans generalizing position cs with
  | nil => exact chars_spanOf cs base
  | cons span spans ih =>
    obtain ⟨start, stop⟩ := span
    rw [highlightFrom, Line.chars_append, chars_spanOf, Line.chars_cons, ih, String.toList_ofList,
      takeBytes_append_dropBytes, takeBytes_append_dropBytes]

theorem chars_highlight (text : String) (filter : Filter) (base : Style) :
    Line.chars (highlight text filter base) = text.toList := chars_highlightFrom base 0 text.toList _

/-! ## 5. Rows -/

/-- The level of a record as its row shows it. -/
def level (r : Record) : String := Text.upper (truncate r.level levelWidth)

/-- The message of a record as its row shows it. -/
def message (r : Record) (width : Nat) : String := truncate r.message (width - fixedWidth)

/-- The message of a record with its matches marked. -/
def marked (r : Record) (filter : Filter) (width : Nat) : Line :=
  highlight (message r width) filter (Theme.message r.severity)

/-- **A row in columns**: the time and a blank, the level and a blank, and at the end the category, moved to
    the right, in a row that is as wide as it should be. -/
structure LinesUp (row : Line) (category : Category) (width : Nat) : Prop where
  whole : row.columns = width
  time : Line.columns (row.take 1) = timeWidth + 1
  level : Line.columns (row.take 2) = timeWidth + 1 + levelWidth + 1
  category : ∃ s, row.getLast? = some s ∧ s.columns = categoryWidth ∧ category.name.toList <:+ s.text.toList

/-- Whether a text takes the columns that its field reserves for it: one for each character, up to the width of
    the field. -/
def Fills (text : String) (width : Nat) : Prop := Text.columns text = min text.length width

instance (text : String) (width : Nat) : Decidable (Fills text width) :=
  inferInstanceAs (Decidable (Text.columns text = min text.length width))

theorem columns_field (text : String) (width : Nat) (style : Style) :
    Span.columns ⟨padRight text width ++ " ", style⟩ = Text.columns text + (width - text.length) + 1 := by
  rw [Span.columns, columns_append_blank, columns_padRight]

theorem columns_category (c : Category) : Text.columns (padLeft c.name categoryWidth) = categoryWidth := by
  cases c <;> rfl

theorem ofRecord_eq (zone : Zone) (r : Record) (filter : Filter) (width : Nat) : ofRecord zone r filter width =
    ⟨padRight (time zone r) timeWidth ++ " ", Theme.dimText⟩ ::
    ⟨padRight (level r) levelWidth ++ " ", Theme.level r.severity⟩ ::
    (marked r filter width ++
      [⟨blanks (width - fixedWidth - Text.columns (message r width) + 1), {}⟩,
       ⟨padLeft r.category.name categoryWidth, Theme.category r.category⟩]) := rfl

/-- **The columns of a row**, field by field from its left. -/
theorem columns_ofRecord (zone : Zone) (r : Record) (filter : Filter) (width : Nat) :
    (ofRecord zone r filter width).columns =
      (Text.columns (time zone r) + (timeWidth - (time zone r).length) + 1) +
      ((Text.columns (level r) + (levelWidth - (level r).length) + 1) +
      ((marked r filter width).columns +
      ((width - fixedWidth - Text.columns (message r width) + 1) + categoryWidth))) := by
  have hrest : Line.columns
      [⟨blanks (width - fixedWidth - Text.columns (message r width) + 1), {}⟩,
       ⟨padLeft r.category.name categoryWidth, Theme.category r.category⟩] =
      (width - fixedWidth - Text.columns (message r width) + 1) + categoryWidth := by
    rw [Line.columns_cons, Line.columns_cons, Line.columns_nil, Span.columns, columns_blanks, Span.columns,
      columns_category, Nat.add_zero categoryWidth]
  rw [ofRecord_eq, Line.columns_cons, Line.columns_cons, Line.columns_append, columns_field, columns_field, hrest]

theorem columns_take_one (zone : Zone) (r : Record) (filter : Filter) (width : Nat) :
    Line.columns ((ofRecord zone r filter width).take 1) =
      Text.columns (time zone r) + (timeWidth - (time zone r).length) + 1 := by
  rw [ofRecord_eq, List.take_succ_cons, List.take_zero, Line.columns_cons, columns_field, Line.columns_nil,
    Nat.add_zero]

theorem columns_take_two (zone : Zone) (r : Record) (filter : Filter) (width : Nat) :
    Line.columns ((ofRecord zone r filter width).take 2) =
      (Text.columns (time zone r) + (timeWidth - (time zone r).length) + 1) +
      (Text.columns (level r) + (levelWidth - (level r).length) + 1) := by
  rw [ofRecord_eq, List.take_succ_cons, List.take_succ_cons, List.take_zero, Line.columns_cons, Line.columns_cons,
    columns_field, columns_field, Line.columns_nil, Nat.add_zero]

/-- The category ends every row, in columns of its own. -/
theorem category_at_end (zone : Zone) (r : Record) (filter : Filter) (width : Nat) :
    ∃ s, (ofRecord zone r filter width).getLast? = some s ∧ s.columns = categoryWidth ∧
      r.category.name.toList <:+ s.text.toList := by
  refine ⟨⟨padLeft r.category.name categoryWidth, Theme.category r.category⟩, ?_, columns_category r.category, ?_⟩
  · simp [ofRecord_eq, List.getLast?_cons]
  · rw [padLeft, String.toList_append]
    exact List.suffix_append _ _

/-- **When a row lines up**: every field takes the columns that were reserved for it. -/
theorem linesUp_iff (zone : Zone) (r : Record) (filter : Filter) {width : Nat} (h : fixedWidth ≤ width) :
    LinesUp (ofRecord zone r filter width) r.category width ↔
      Fills (time zone r) timeWidth ∧ Fills (level r) levelWidth ∧
      (marked r filter width).columns = min (Text.columns (message r width)) (width - fixedWidth) := by
  have hwhole := columns_ofRecord zone r filter width
  have htime := columns_take_one zone r filter width
  have hlevel := columns_take_two zone r filter width
  have hfixed : fixedWidth = timeWidth + 1 + levelWidth + 1 + 1 + categoryWidth := rfl
  unfold Fills
  constructor
  · intro hlines
    have hw := hlines.whole
    have ht := hlines.time
    have hl := hlines.level
    omega
  · rintro ⟨ht, hl, hm⟩
    exact ⟨by omega, by omega, by omega, category_at_end zone r filter width⟩

/-! ## 6. Records that keep to their columns -/

theorem fills_of_oneCell {text : String} {width : Nat} (h : ∀ c ∈ text.toList, Text.isOneCell c = true)
    (hlength : text.length ≤ width) : Fills text width := by
  rw [Fills, Text.columns_of_oneCell h, Nat.min_eq_left hlength]

theorem length_truncate_le {text : String} {width : Nat} (h : ∀ c ∈ text.toList, Text.isOneCell c = true) :
    (truncate text width).length ≤ width := by
  have hkept : ∀ c ∈ (truncate text width).toList, Text.isOneCell c = true := fun c hc =>
    h c (mem_of_mem_truncate hc)
  rw [← String.length_toList, ← Text.cells_of_oneCell hkept]
  exact cells_truncate_le text width

/-- Whether a character stands alone in one column, and so does its capital form. -/
def staysOneCell (c : Char) : Bool :=
  Text.isOneCell c && (Text.capital c).length == 1 && (Text.capital c).all Text.isOneCell

theorem staysOneCell_iff {c : Char} : staysOneCell c = true ↔
    (Text.isOneCell c = true ∧ (Text.capital c).length = 1) ∧ ∀ d ∈ Text.capital c, Text.isOneCell d = true := by
  rw [staysOneCell, Bool.and_eq_true, Bool.and_eq_true, beq_iff_eq, List.all_eq_true]

theorem length_flatMap_capital {cs : List Char} (h : ∀ c ∈ cs, (Text.capital c).length = 1) :
    (cs.flatMap Text.capital).length = cs.length := by
  induction cs with
  | nil => rfl
  | cons c cs ih =>
    have hrest := ih fun d hd => h d (List.mem_cons_of_mem c hd)
    rw [List.flatMap_cons, List.length_append, h c List.mem_cons_self, hrest, List.length_cons, Nat.add_comm]

/-- **A record whose characters keep to their cells.** Its time can be read, or each character of it has one cell.
    Each character of its level has one cell, and so has its capital form. No character of its message changes a
    neighbour, but there may be characters of two columns and of none. -/
structure Steady (zone : Zone) (r : Record) : Prop where
  time : r.instant zone ≠ none ∨ ∀ c ∈ r.timestamp.toList, Text.isOneCell c = true
  level : ∀ c ∈ r.level.toList, staysOneCell c = true
  message : ∀ c ∈ r.message.toList, Text.standsAlone c = true

namespace Steady

variable {zone : Zone} {r : Record}

theorem fills_time (h : Steady zone r) : Fills (Row.time zone r) timeWidth := by
  unfold Row.time
  cases hread : r.instant zone with
  | some t =>
    have hspare : (zone.shown t).nanos < 2 * 10 ^ 9 := by
      rw [Zone.nanos_shown]
      exact Stamp.nanos_lt hread
    obtain ⟨hlength, hcells⟩ := Instant.clock_fits hspare
    exact fills_of_oneCell hcells (Nat.le_of_eq hlength)
  | none =>
    have hcells : ∀ c ∈ r.timestamp.toList, Text.isOneCell c = true :=
      h.time.resolve_left fun hsome => hsome hread
    exact fills_of_oneCell (fun c hc => hcells c (mem_of_mem_truncate hc)) (length_truncate_le hcells)

theorem fills_level (h : Steady zone r) : Fills (Row.level r) levelWidth := by
  have hlength : (Row.level r).length = (truncate r.level levelWidth).length := by
    rw [Row.level, Text.upper, String.length_ofList, ← String.length_toList]
    exact length_flatMap_capital fun c hc => (staysOneCell_iff.mp (h.level c (mem_of_mem_truncate hc))).1.2
  refine fills_of_oneCell ?_ ?_
  · intro d hd
    rw [Row.level, Text.upper, String.toList_ofList] at hd
    obtain ⟨c, hc, hd⟩ := List.mem_flatMap.mp hd
    exact (staysOneCell_iff.mp (h.level c (mem_of_mem_truncate hc))).2 d hd
  · rw [hlength]
    exact length_truncate_le fun c hc => (staysOneCell_iff.mp (h.level c hc)).1.1

theorem fills_message (h : Steady zone r) (filter : Filter) (width : Nat) :
    (marked r filter width).columns = min (Text.columns (Row.message r width)) (width - fixedWidth) := by
  have halone : ∀ c ∈ (Row.message r width).toList, Text.standsAlone c = true := fun c hc =>
    h.message c (mem_of_mem_truncate hc)
  have hchars : (marked r filter width).chars = (Row.message r width).toList := chars_highlight _ _ _
  have hroom : Text.cells (Row.message r width).toList ≤ width - fixedWidth := cells_truncate_le _ _
  rw [Line.columns_of_standsAlone (by rwa [hchars]), hchars, Text.columns_of_standsAlone halone,
    Nat.min_eq_left hroom]

end Steady

/-! ## 7. The table -/

/-- **A row lines up exactly if each of its fields takes the columns that were reserved for it**, and that is so
    for all records whose characters keep to their cells, whatever is searched for and in whatever time zone. -/
theorem lines_up_iff_fields_fill (zone : Zone) (r : Record) (filter : Filter) {width : Nat}
    (h : fixedWidth ≤ width) :
    (LinesUp (ofRecord zone r filter width) r.category width ↔
      Fills (time zone r) timeWidth ∧ Fills (level r) levelWidth ∧
      (marked r filter width).columns = min (Text.columns (message r width)) (width - fixedWidth)) ∧
    (Steady zone r → LinesUp (ofRecord zone r filter width) r.category width) := by
  refine ⟨linesUp_iff zone r filter h, fun hsteady => ?_⟩
  exact (linesUp_iff zone r filter h).mpr
    ⟨hsteady.fills_time, hsteady.fills_level, hsteady.fills_message filter width⟩

/-- A message with wide characters and a combining one, cut to its room, with a match in it. -/
theorem lines_up_with_wide_message :
    let r : Record :=
      { timestamp := "yesterday", level := "warn", message := "disk 容量 nearly fu\u0308ll, 容量 left: 4%" }
    fixedWidth ≤ 40 ∧ Steady .utc r ∧
    LinesUp (ofRecord .utc r (Filter.ofSearch "量") 40) r.category 40 := by
  intro r
  have hsteady : Steady .utc r :=
    ⟨Or.inr (List.all_eq_true.mp (by decide +kernel)), List.all_eq_true.mp (by decide +kernel),
      List.all_eq_true.mp (by decide +kernel)⟩
  exact ⟨by decide, hsteady, (lines_up_iff_fields_fill .utc r (Filter.ofSearch "量") (by decide)).2 hsteady⟩

/-- A level of three wide characters has six columns, and is filled up as if it had three. -/
theorem wide_level_moves_message :
    let r : Record := { timestamp := "", level := "日本語", message := "started" }
    ¬ LinesUp (ofRecord .utc r {} 66) r.category 66 := by
  intro r hlines
  obtain ⟨-, hlevel, -⟩ := (linesUp_iff .utc r {} (by decide)).mp hlines
  exact absurd hlevel (by decide +kernel)

end Row
end LiveLog
