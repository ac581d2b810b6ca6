import LiveLog.Text.Columns
import Mathlib

/-!
# Columns of texts put together

The columns of a text are not the sum over its characters, and the columns of two texts side by side are not
the sum of the two: what a character takes depends on what follows it, so a cut may make a text wider or
narrower. Two things do hold. **What the text behind a border is to the text before it is all that crosses the
border** (`columnsFrom_append`), so texts that begin with nothing special can be put behind any other. And
there are characters that never look at what follows them and that nothing before them looks at; **of these, a
text takes what they take one by one** (`columns_of_standsAlone`), however it is cut.

A sign may take back a column, that of the letter which it puts below another one. It never takes back what was
not given: what may be taken back of a text is known from its first character (`Follower.spare`), and is there
(`spare_le_columnsFrom`). So the columns of a text are never cut off at zero, and those of two texts add up.
-/

namespace LiveLog.Text

/-! ## 1. What is taken back -/

/-- The columns that a character in front may take back of a letter: that of a Khmer letter, which may be written
    below another one, and that of one of two bound Tifinagh letters. -/
def EndLetter.spare : EndLetter → Int
  | .khmer => 1
  | .boundTifinagh => 1
  | _ => 0

/-- **The columns that may be taken back in front of a follower.** -/
def Follower.spare (f : Follower) : Int :=
  match f.neighbour with
  | .letter l _ => l.spare
  | _ => 0

theorem EndLetter.spare_nonneg (l : EndLetter) : 0 ≤ l.spare := by cases l <;> decide

theorem EndLetter.spare_le_one (l : EndLetter) : l.spare ≤ 1 := by cases l <;> decide

theorem Follower.spare_nonneg (f : Follower) : 0 ≤ f.spare := by
  unfold spare
  split
  · exact EndLetter.spare_nonneg _
  · exact Int.le_refl 0

/-- What is requested does not change what may be taken back. -/
theorem Follower.spare_asking (n : Neighbour) (r : StyleRequest) :
    (asking n r).spare = spare { neighbour := n } := by
  cases n with
  | joinedPicture => cases r <;> rfl
  | _ => rfl

theorem Follower.spare_unasked (f : Follower) : spare { neighbour := f.unasked } = f.spare := by
  unfold unasked
  split
  case isTrue hjoined =>
    rw [Bool.and_eq_true, decide_eq_true_iff, decide_eq_true_iff] at hjoined
    unfold spare
    rw [hjoined.2]
  case isFalse => rfl

/-- **A letter that may be drawn with others has a column by itself.** -/
theorem one_le_drawnColumns {c : Char} {l : EndLetter} (h : endLetter? c = some l) : 1 ≤ drawnColumns c := by
  have hall : endLetters.all (fun e =>
      e.1.all fun r => zeroRanges.all fun z => r.2 < z.1 || z.2 < r.1) = true := by decide +kernel
  simp only [List.all_eq_true, Bool.or_eq_true, decide_eq_true_iff] at hall
  obtain ⟨e, hfound, -⟩ := Option.map_eq_some_iff.mp (Option.ite_none_left_eq_some.mp h).2
  have hcovers : Range.covers e.1 c.toNat = true :=
    List.find?_some (p := fun e : List Range × EndLetter => Range.covers e.1 c.toNat) hfound
  obtain ⟨r, hr, hc⟩ := List.any_eq_true.mp hcovers
  rw [Bool.and_eq_true, decide_eq_true_iff, decide_eq_true_iff] at hc
  have hzero : Range.covers zeroRanges c.toNat = false := by
    refine List.any_eq_false.mpr ?_
    intro z hz hin
    rw [Bool.and_eq_true, decide_eq_true_iff, decide_eq_true_iff] at hin
    have hapart := hall e (List.mem_of_find?_eq_some hfound) r hr z hz
    omega
  unfold drawnColumns
  simp only [hzero, Bool.false_eq_true, if_false]
  split_ifs <;> decide

theorem spare_columnsAlone_le (c : Char) : (columnsAlone c).2.spare ≤ (columnsAlone c).1 := by
  have hcolumns : (0 : Int) ≤ drawnColumns c := Int.natCast_nonneg _
  unfold columnsAlone
  dsimp only
  split_ifs
  · decide
  · decide
  · exact hcolumns
  · exact hcolumns
  · cases hletter : endLetter? c with
    | none => exact hcolumns
    | some l =>
      have hone := one_le_drawnColumns hletter
      have hspare : l.spare ≤ 1 := l.spare_le_one
      show l.spare ≤ drawnColumns c
      omega

/-- **A character that is drawn with a letter takes back what it may of it.** -/
theorem EndLetter.spare_meets_le {l : EndLetter} {joined : Bool} {c : Char} {k : Int} {m : Option EndLetter}
    (h : l.meets joined c = some (k, m)) : m.elim 0 spare ≤ l.spare + k := by
  unfold meets at h
  dsimp only at h
  split at h
  all_goals
    split_ifs at h
    all_goals
      obtain ⟨rfl, rfl⟩ := Prod.mk.inj (Option.some.inj h)
      decide

theorem spare_columnsBeside_le (c : Char) (n : Neighbour) :
    (columnsBeside c n).2.spare ≤ Follower.spare { neighbour := n } + (columnsBeside c n).1 := by
  have halone : (columnsAlone c).2.spare ≤ Follower.spare { neighbour := n } + (columnsAlone c).1 :=
    Int.le_trans (spare_columnsAlone_le c) (Int.le_add_of_nonneg_left (Follower.spare_nonneg _))
  unfold columnsBeside
  cases n with
  | other => exact halone
  | lineFeed => exact halone
  | skin =>
    dsimp only
    split_ifs
    · decide
    · decide
    · exact halone
  | picture =>
    dsimp only
    split_ifs
    · decide
    · exact halone
  | joinedPicture =>
    dsimp only
    split_ifs
    · decide
    · decide
    · exact halone
  | letter l joined =>
    dsimp only
    split_ifs
    · exact Int.le_of_eq (Int.add_zero _).symm
    · exact Int.le_of_eq (Int.add_zero _).symm
    · split
      case h_1 k m hmeets => exact EndLetter.spare_meets_le hmeets
      case h_2 k hmeets => exact EndLetter.spare_meets_le hmeets
      case h_3 => exact halone

theorem spare_columnsBefore_le (c : Char) (next : Follower) :
    (columnsBefore c next).2.spare ≤ next.spare + (columnsBefore c next).1 := by
  have hspare := next.spare_nonneg
  have hbeside := spare_columnsBeside_le c next.unasked
  rw [Follower.spare_unasked] at hbeside
  unfold columnsBefore
  dsimp only
  split_ifs
  all_goals first
    | exact hbeside
    | (rw [Follower.spare_asking, Follower.spare_unasked, Int.add_zero])
    | exact Int.add_nonneg hspare (by decide)

/-- **What may be taken back of a text is there.** -/
theorem spare_le_columnsFrom (cs : List Char) : (columnsFrom cs).2.spare ≤ (columnsFrom cs).1 := by
  induction cs with
  | nil => decide
  | cons c cs ih =>
    have hstep := spare_columnsBefore_le c (columnsFrom cs).2
    rw [columnsFrom]
    dsimp only
    omega

/-- One Khmer letter below another one, and two Tifinagh letters that are bound. -/
example : columns "\u1780\u17d2\u1780" = 1 ∧ columns "\u2d4f\u2d7f\u2d3e" = 1 := by decide +kernel

theorem columnsFrom_nonneg (cs : List Char) : 0 ≤ (columnsFrom cs).1 :=
  Int.le_trans (Follower.spare_nonneg _) (spare_le_columnsFrom cs)

/-! ## 2. Borders -/

/-- **Text behind a border that is nothing special to what stands before it adds its own columns.** -/
theorem columnsFrom_append (cs : List Char) {ds : List Char} (h : (columnsFrom ds).2 = .other) :
    columnsFrom (cs ++ ds) = ((columnsFrom cs).1 + (columnsFrom ds).1, (columnsFrom cs).2) := by
  induction cs with
  | nil => exact Prod.ext (Int.zero_add _).symm h
  | cons c cs ih =>
    rw [List.cons_append, columnsFrom, ih, columnsFrom]
    exact Prod.ext (Int.add_right_comm _ _ _) rfl

theorem columns_append {s t : String} (h : (columnsFrom t.toList).2 = .other) :
    columns (s ++ t) = columns s + columns t := by
  rw [columns, String.toList_append, columnsFrom_append _ h]
  exact Int.toNat_add (columnsFrom_nonneg _) (columnsFrom_nonneg _)

theorem columnsFrom_replicate_blank (n : Nat) : columnsFrom (List.replicate n ' ') = ((n : Int), .other) := by
  induction n with
  | zero => rfl
  | succ n ih =>
    rw [List.replicate_succ, columnsFrom, ih]
    rfl

/-! ## 3. Characters that stand alone -/

/-- Whether a letter is drawn with others only behind a joiner or a sign. -/
def EndLetter.waits : EndLetter → Bool
  | .lamed => true
  | .ya => true
  | .tifinagh => true
  | .orkhonI => true
  | .khmer => true
  | _ => false

/-- **Whether a character never changes the columns of a neighbour**: it is no control, joins nothing, asks for
    no style, is no colour of skin, and is no letter that is drawn with one right in front of it. -/
def standsAlone (c : Char) : Bool :=
  !(isControl c || c == joiner || c == pictureStyle || c == textStyle || isSkin c || c == coeng ||
    c == tifinaghBinder || !(endLetter? c).all EndLetter.waits)

/-- What characters take one by one. -/
def cells (cs : List Char) : Nat := (cs.map charColumns).sum

@[simp] theorem cells_nil : cells [] = 0 := rfl

@[simp] theorem cells_cons (c : Char) (cs : List Char) : cells (c :: cs) = charColumns c + cells cs := by
  rw [cells, List.map_cons, List.sum_cons]
  rfl

@[simp] theorem cells_append (cs ds : List Char) : cells (cs ++ ds) = cells cs + cells ds := by
  rw [cells, List.map_append, List.sum_append]
  rfl

theorem cells_le_of_isPrefix {start cs : List Char} (h : start <+: cs) : cells start ≤ cells cs := by
  obtain ⟨rest, rfl⟩ := h
  rw [cells_append]
  exact Nat.le_add_right _ _

/-- A follower that means nothing to a character that stands alone. -/
structure Follower.Quiet (f : Follower) : Prop where
  request : f.request = none
  neighbour : f.neighbour = .other ∨ f.neighbour = .picture ∨
    ∃ l, l.waits = true ∧ f.neighbour = .letter l false

theorem Follower.Quiet.of_neighbour {n : Neighbour}
    (h : n = .other ∨ n = .picture ∨ ∃ l, l.waits = true ∧ n = .letter l false) :
    Quiet { neighbour := n } := ⟨rfl, h⟩

/-- What is not seen has no column. -/
theorem drawnColumns_of_unseen {c : Char} (h : Range.covers unseenRanges c.toNat = true) :
    drawnColumns c = 0 := by
  have hwithin : unseenRanges.all (fun r => decide (0xA0 < r.1) &&
      zeroRanges.any fun z => z.1 ≤ r.1 && r.2 ≤ z.2) = true := by decide +kernel
  simp only [List.all_eq_true, List.any_eq_true, Bool.and_eq_true, decide_eq_true_iff] at hwithin
  obtain ⟨r, hr, hc⟩ := List.any_eq_true.mp h
  rw [Bool.and_eq_true, decide_eq_true_iff, decide_eq_true_iff] at hc
  obtain ⟨hlarge, z, hz, hstart, hstop⟩ := hwithin r hr
  have hzero : Range.covers zeroRanges c.toNat = true := by
    refine List.any_eq_true.mpr ⟨z, hz, ?_⟩
    rw [Bool.and_eq_true, decide_eq_true_iff, decide_eq_true_iff]
    omega
  unfold drawnColumns
  dsimp only
  rw [if_neg (by omega), if_pos hzero]

variable {c : Char}

theorem meets_of_standsAlone (h : standsAlone c = true) {l : EndLetter} (hl : l.waits = true) :
    l.meets false c = none := by
  simp only [standsAlone, Bool.not_eq_true', Bool.or_eq_false_iff] at h
  obtain ⟨⟨⟨-, hcoeng⟩, hbinder⟩, -⟩ := h
  cases l with
  | khmer => simp [EndLetter.meets, hcoeng]
  | tifinagh => simp [EndLetter.meets, hbinder]
  | lamed => rfl
  | ya => rfl
  | orkhonI => rfl
  | _ => exact absurd hl (by decide)

theorem columnsAlone_of_standsAlone (h : standsAlone c = true) :
    (columnsAlone c).1 = charColumns c ∧ (columnsAlone c).2.Quiet := by
  simp only [standsAlone, Bool.not_eq_true', Bool.or_eq_false_iff] at h
  obtain ⟨⟨⟨⟨⟨⟨⟨hcontrol, -⟩, hpicture⟩, htext⟩, hskin⟩, -⟩, -⟩, hletter⟩ := h
  have hown : charColumns c = drawnColumns c := by simp [charColumns, hcontrol]
  rw [columnsAlone, hown]
  simp only [hpicture, htext, hskin, Bool.false_eq_true, if_false]
  split
  · exact ⟨rfl, .of_neighbour (.inr (.inl rfl))⟩
  · cases hend : endLetter? c with
    | none => exact ⟨rfl, .of_neighbour (.inl rfl)⟩
    | some l =>
      rw [hend, Bool.not_eq_false'] at hletter
      exact ⟨rfl, .of_neighbour (.inr (.inr ⟨l, hletter, rfl⟩))⟩

/-- **A character that stands alone, in front of another such one or of none.** -/
theorem columnsBefore_of_standsAlone (h : standsAlone c = true) {next : Follower} (hnext : next.Quiet) :
    (columnsBefore c next).1 = charColumns c ∧ (columnsBefore c next).2.Quiet := by
  have halone := columnsAlone_of_standsAlone h
  have hmeets : ∀ l : EndLetter, l.waits = true → l.meets false c = none := fun l => meets_of_standsAlone h
  simp only [standsAlone, Bool.not_eq_true', Bool.or_eq_false_iff] at h
  obtain ⟨⟨⟨⟨⟨⟨⟨hcontrol, hjoiner⟩, hpicture⟩, htext⟩, -⟩, -⟩, -⟩, -⟩ := h
  have hown : charColumns c = drawnColumns c := by simp [charColumns, hcontrol]
  have hfeed : (c == '\n') = false := beq_false_of_ne (by rintro rfl; exact absurd hcontrol (by decide))
  have hreturn : (c == '\r') = false := beq_false_of_ne (by rintro rfl; exact absurd hcontrol (by decide))
  have hbefore : columnsBefore c next =
      if c.toNat ≤ 0xA0 then (1, .other) else columnsBeside c next.neighbour := by
    simp [columnsBefore, Follower.unasked, hnext.request, hfeed, hreturn, hpicture, htext]
  rw [hbefore]
  by_cases hsmall : c.toNat ≤ 0xA0
  · rw [if_pos hsmall, hown, drawnColumns, if_pos hsmall]
    exact ⟨rfl, .of_neighbour (.inl rfl)⟩
  rw [if_neg hsmall]
  rcases hnext.neighbour with hn | hn | ⟨l, hl, hn⟩
  · rw [hn]
    exact halone
  · rw [hn, columnsBeside, hjoiner]
    exact halone
  · have halef : l.seesPast c = Range.covers unseenRanges c.toNat := by
      cases l <;> first | rfl | exact absurd hl (by decide)
    rw [hn, columnsBeside]
    simp only [hjoiner, Bool.and_false, Bool.false_eq_true, if_false, hmeets l hl, halef]
    split
    case isTrue hunseen =>
      rw [hown, drawnColumns_of_unseen hunseen]
      exact ⟨rfl, .of_neighbour (.inr (.inr ⟨l, hl, rfl⟩))⟩
    case isFalse => exact halone

theorem columnsFrom_of_standsAlone {cs : List Char} (h : ∀ c ∈ cs, standsAlone c = true) :
    (columnsFrom cs).1 = cells cs ∧ (columnsFrom cs).2.Quiet := by
  induction cs with
  | nil => exact ⟨rfl, .of_neighbour (.inl rfl)⟩
  | cons c cs ih =>
    obtain ⟨hrest, hnext⟩ := ih fun d hd => h d (List.mem_cons_of_mem c hd)
    obtain ⟨hown, hquiet⟩ := columnsBefore_of_standsAlone (h c List.mem_cons_self) hnext
    refine ⟨?_, hquiet⟩
    rw [cells_cons, Nat.cast_add, ← hown, ← hrest, Int.add_comm]
    rfl

/-- **A text of characters that stand alone takes what they take one by one.** -/
theorem columns_of_standsAlone {s : String} (h : ∀ c ∈ s.toList, standsAlone c = true) :
    columns s = cells s.toList := by
  rw [columns, (columnsFrom_of_standsAlone h).1, Int.toNat_natCast]

/-! ## 4. Characters of one cell -/

/-- Whether a character stands alone in one column. -/
def isOneCell (c : Char) : Bool := standsAlone c && charColumns c == 1

theorem isOneCell_iff {c : Char} : isOneCell c = true ↔ standsAlone c = true ∧ charColumns c = 1 := by
  rw [isOneCell, Bool.and_eq_true, beq_iff_eq]

theorem cells_of_oneCell {cs : List Char} (h : ∀ c ∈ cs, isOneCell c = true) : cells cs = cs.length := by
  induction cs with
  | nil => rfl
  | cons c cs ih =>
    have hrest : cells cs = cs.length := ih fun d hd => h d (List.mem_cons_of_mem c hd)
    have hown : charColumns c = 1 := (isOneCell_iff.mp (h c List.mem_cons_self)).2
    rw [cells_cons, hown, hrest, List.length_cons, Nat.add_comm]

theorem columns_of_oneCell {s : String} (h : ∀ c ∈ s.toList, isOneCell c = true) : columns s = s.length := by
  have halone : ∀ c ∈ s.toList, standsAlone c = true := fun c hc => (isOneCell_iff.mp (h c hc)).1
  rw [columns_of_standsAlone halone, cells_of_oneCell h, String.length_toList]

end LiveLog.Text
