import LiveLog.Screen.Viewer

/-!
# Drawings that stay inside

Whether a drawing stays on the screen is asked piece by piece. Frames are cells of an area, lines are glyphs side
by side in so many columns, and each of these stays inside the area it was given. Panels cut their area
to the screen first, so they stay inside whatever area they are given.

The status row does not cut its area. It puts its hints in the first row of the area without asking whether the
area has one, and an area without rows may begin below the screen. So here the question is not whether the log
viewer stays inside but when, and the answer is the same for all ways to divide the screen
(`Viewer.isInside_drawIn_iff`).
-/

namespace LiveLog

/-! ## 1. Areas in areas -/

/-- **Whether an area lies in another.** It may have no cell. -/
structure Rect.IsIn (r s : Rect) : Prop where
  left : s.x ≤ r.x
  right : r.right ≤ s.right
  top : s.y ≤ r.y
  bottom : r.bottom ≤ s.bottom

theorem Rect.isIn_iff {r s : Rect} : r.IsIn s ↔
    (s.x ≤ r.x ∧ r.x + r.width ≤ s.x + s.width) ∧ s.y ≤ r.y ∧ r.y + r.height ≤ s.y + s.height :=
  ⟨fun h => ⟨⟨h.left, h.right⟩, h.top, h.bottom⟩, fun h => ⟨h.1.1, h.1.2, h.2.1, h.2.2⟩⟩

theorem Rect.mem_cells {r : Rect} {c : Nat × Nat} :
    c ∈ r.cells ↔ (r.x ≤ c.1 ∧ c.1 < r.right) ∧ r.y ≤ c.2 ∧ c.2 < r.bottom := by
  unfold cells Rect.right Rect.bottom
  simp only [List.mem_flatMap, List.mem_map, List.mem_range]
  constructor
  · rintro ⟨j, hj, i, hi, rfl⟩
    exact ⟨⟨Nat.le_add_right _ _, by simpa using hi⟩, Nat.le_add_right _ _, by simpa using hj⟩
  · rintro ⟨⟨hleft, hright⟩, htop, hbottom⟩
    exact ⟨c.2 - r.y, by omega, c.1 - r.x, by omega, Prod.ext (by simp; omega) (by simp; omega)⟩

theorem Stroke.isInside_iff {s : Stroke} {r : Rect} :
    s.isInside r = true ↔ (r.x ≤ s.x ∧ s.x < r.right) ∧ r.y ≤ s.y ∧ s.y < r.bottom := by
  simp [isInside, and_assoc]

namespace Drawing

variable {d e : Drawing} {r s : Rect}

theorem isInside_iff : d.isInside r = true ↔ ∀ p ∈ d, p.isInside r = true := List.all_eq_true

theorem isInside_nil (r : Rect) : isInside [] r = true := rfl

theorem isInside_append_iff : isInside (d ++ e) r = true ↔ d.isInside r = true ∧ e.isInside r = true := by
  rw [isInside, List.all_append, Bool.and_eq_true]
  rfl

theorem isInside_cons_iff {p : Stroke} :
    isInside (p :: d) r = true ↔ p.isInside r = true ∧ d.isInside r = true := by
  rw [isInside, List.all_cons, Bool.and_eq_true]
  rfl

theorem isInside_mono (h : r.IsIn s) (hd : d.isInside r = true) : d.isInside s = true := by
  refine isInside_iff.mpr ?_
  intro p hp
  obtain ⟨⟨hleft, hright⟩, htop, hbottom⟩ := Stroke.isInside_iff.mp (isInside_iff.mp hd p hp)
  exact Stroke.isInside_iff.mpr ⟨⟨Nat.le_trans h.left hleft, Nat.lt_of_lt_of_le hright h.right⟩,
    Nat.le_trans h.top htop, Nat.lt_of_lt_of_le hbottom h.bottom⟩

/-- What stays inside the part of an area on the screen stays on the screen, also if there is no such part. -/
theorem isInside_of_clip (hd : d.isInside (r.clip s) = true) : d.isInside s = true := by
  refine isInside_iff.mpr ?_
  intro p hp
  have hin := Stroke.isInside_iff.mp (isInside_iff.mp hd p hp)
  simp only [Rect.clip, Rect.right, Rect.bottom] at hin
  refine Stroke.isInside_iff.mpr ?_
  unfold Rect.right Rect.bottom
  omega

/-- Strokes over the cells of an area stay inside it. -/
theorem isInside_map_cells (r : Rect) (brush : Brush) :
    isInside (r.cells.map fun c => ⟨c.1, c.2, brush⟩) r = true := by
  refine isInside_iff.mpr ?_
  intro p hp
  obtain ⟨c, hc, rfl⟩ := List.mem_map.mp hp
  exact Stroke.isInside_iff.mpr (Rect.mem_cells.mp hc)

theorem isInside_tinted (r : Rect) (style : Style) : (tinted r style).isInside r = true :=
  isInside_map_cells r _

theorem isInside_wiped (r : Rect) : (wiped r).isInside r = true := isInside_map_cells r _

theorem isInside_filled (r : Rect) (symbol : String) (style : Style) :
    (filled r symbol style).isInside r = true := isInside_map_cells r _

end Drawing

open Drawing

/-! ## 2. Lines -/

namespace Glyph

/-- The columns of some glyphs. -/
def total (gs : List Glyph) : Nat := (gs.map columns).foldr (· + ·) 0

theorem total_cons (g : Glyph) (gs : List Glyph) : total (g :: gs) = g.columns + total gs := rfl

/-- **Glyphs that fit do not take more than there is.** -/
theorem total_fitting_le (width : Nat) {used : Nat} (gs : List Glyph) (h : used ≤ width) :
    used + total (fitting width used gs) ≤ width := by
  induction gs generalizing used with
  | nil => exact h
  | cons g gs ih =>
    rw [fitting]
    split
    case isTrue => exact ih h
    case isFalse =>
    split
    case isTrue => exact h
    case isFalse hfits =>
      have hrest : used + g.columns + total (fitting width (used + g.columns) gs) ≤ width :=
        ih (Nat.le_of_not_lt hfits)
      rw [total_cons]
      omega

variable {r : Rect} {x y : Nat}

theorem isInside_sideBySide (gs : List Glyph) (hleft : r.x ≤ x) (hright : x + total gs ≤ r.right)
    (htop : r.y ≤ y) (hbottom : y < r.bottom) : (sideBySide y x gs).isInside r = true := by
  induction gs generalizing x with
  | nil => rfl
  | cons g gs ih =>
    rw [total_cons] at hright
    rw [sideBySide]
    split
    case isTrue hzero => exact ih hleft (by omega)
    case isFalse hpos =>
      refine isInside_cons_iff.mpr ⟨?_, ih (by omega) (by omega)⟩
      exact Stroke.isInside_iff.mpr ⟨⟨hleft, show x < r.right by omega⟩, htop, hbottom⟩

/-- Glyphs with hidden cells emptied stay in the columns they were given, if these are any. -/
theorem isInside_emptied (room : Nat) (gs : List Glyph) (hleft : r.x ≤ x)
    (hright : 0 < room → x + room ≤ r.right) (htop : r.y ≤ y) (hbottom : y < r.bottom) :
    (emptied y room x gs).1.isInside r = true ∧ x ≤ (emptied y room x gs).2 := by
  induction gs generalizing room x with
  | nil => exact ⟨rfl, Nat.le_refl _⟩
  | cons g gs ih =>
    rw [emptied]
    split
    case isTrue => exact ih room hleft hright
    case isFalse hdrawn =>
    split
    case isTrue => exact ⟨rfl, Nat.le_refl _⟩
    case isFalse hfits =>
      have hpos : g.columns ≠ 0 := fun h => hdrawn (by simp [h])
      have hroom := hright (by omega)
      obtain ⟨hrest, hlast⟩ := ih (room - g.columns) (x := x + g.columns) (by omega) (by omega)
      have hfirst : Stroke.isInside ⟨x, y, .draw g.symbol g.style⟩ r = true :=
        Stroke.isInside_iff.mpr ⟨⟨hleft, show x < r.right by omega⟩, htop, hbottom⟩
      have hhidden : Rect.IsIn { x := x + 1, y, width := g.columns - 1, height := 1 } r := by
        refine ⟨Nat.le_succ_of_le hleft, ?_, htop, hbottom⟩
        show x + 1 + (g.columns - 1) ≤ r.right
        omega
      exact ⟨isInside_cons_iff.mpr ⟨hfirst, isInside_append_iff.mpr ⟨isInside_mono hhidden (isInside_wiped _), hrest⟩⟩,
        Nat.le_trans (Nat.le_add_right _ _) hlast⟩

end Glyph

namespace Line

variable {r a : Rect}

theorem isInside_draw (l : Line) (hleft : r.x ≤ a.x) (hright : a.right ≤ r.right) (htop : r.y ≤ a.y)
    (hbottom : a.y < r.bottom) : (l.draw a).isInside r = true := by
  refine Glyph.isInside_sideBySide _ hleft ?_ htop hbottom
  have hfits := Glyph.total_fitting_le a.width l.glyphs (Nat.zero_le _)
  have hwidth : a.x + a.width ≤ r.right := hright
  omega

theorem isInside_drawAll (ls : List Line) (r : Rect) : (drawAll ls r).isInside r = true := by
  unfold drawAll
  split
  case isTrue => rfl
  case isFalse =>
  refine isInside_iff.mpr ?_
  intro p hp
  obtain ⟨d, hd, hp⟩ := List.mem_flatten.mp hp
  obtain ⟨j, hj, rfl⟩ := List.mem_mapIdx.mp hd
  have hrow : j < r.height := by
    rw [List.length_take] at hj
    omega
  have hline := isInside_draw (r := r) (a := { r with y := r.y + j }) (ls.take r.height)[j] (Nat.le_refl _)
    (Nat.le_refl _) (Nat.le_add_right _ _) (Nat.add_lt_add_left hrow _)
  exact isInside_iff.mp hline p hp

theorem isInside_drawPlain {right y room x : Nat} (l : Line) (hleft : r.x ≤ x) (hright : right = r.right)
    (htop : r.y ≤ y) (hbottom : y < r.bottom) : (drawPlain right y room x l).isInside r = true := by
  induction l generalizing room x with
  | nil => rfl
  | cons s l ih =>
    rw [drawPlain]
    split
    case isTrue => rfl
    case isFalse =>
      obtain ⟨hspan, hlast⟩ := Glyph.isInside_emptied (min room (right - x)) s.glyphs hleft
        (by omega) htop hbottom
      exact isInside_append_iff.mpr ⟨hspan, ih (Nat.le_trans hleft hlast)⟩

end Line

/-! ## 3. Panels and scrollbars -/

namespace Panel

theorem isInside_frame {r : Rect} (style : Style) (h : r.isEmpty = false) :
    (frame r style).isInside r = true := by
  have hcells : 0 < r.width ∧ 0 < r.height := by
    simp [Rect.isEmpty] at h
    omega
  have hleft : ({ r with width := 1 } : Rect).IsIn r := Rect.isIn_iff.mpr (by dsimp only; omega)
  have htop : ({ r with height := 1 } : Rect).IsIn r := Rect.isIn_iff.mpr (by dsimp only; omega)
  have hright : ({ r with x := r.right - 1, width := 1 } : Rect).IsIn r :=
    Rect.isIn_iff.mpr (by dsimp only [Rect.right]; omega)
  have hbottom : ({ r with y := r.bottom - 1, height := 1 } : Rect).IsIn r :=
    Rect.isIn_iff.mpr (by dsimp only [Rect.bottom]; omega)
  unfold frame
  simp only [isInside_append_iff]
  refine ⟨⟨⟨⟨?_, ?_⟩, ?_⟩, ?_⟩, ?_⟩
  · exact isInside_mono hleft (isInside_filled _ _ _)
  · exact isInside_mono htop (isInside_filled _ _ _)
  · exact isInside_mono hright (isInside_filled _ _ _)
  · exact isInside_mono hbottom (isInside_filled _ _ _)
  · simp only [isInside_cons_iff, isInside_nil, Stroke.isInside_iff, and_true]
    unfold Rect.right Rect.bottom
    omega

/-- **A panel stays on the screen**, wherever its area is. -/
theorem isInside_draw (p : Panel) (area screen : Rect) : (p.draw area screen).isInside screen = true := by
  unfold draw
  simp only
  split
  case isTrue => rfl
  case isFalse hcells =>
  rw [Bool.not_eq_true] at hcells
  refine isInside_of_clip (r := area) ?_
  generalize area.clip screen = r at hcells
  have hsize : 0 < r.width ∧ 0 < r.height := by
    simp [Rect.isEmpty] at hcells
    omega
  refine isInside_append_iff.mpr ⟨isInside_append_iff.mpr ⟨isInside_frame _ hcells, ?_⟩, ?_⟩
  · cases p.title with
    | none => rfl
    | some title =>
      refine Line.isInside_draw _ (Nat.le_succ _) ?_ (Nat.le_refl _) ?_
      · show r.x + 1 + (r.width - 2) ≤ r.x + r.width
        omega
      · show r.y < r.y + r.height
        omega
  · refine isInside_mono (Rect.isIn_iff.mpr ?_) (Line.isInside_drawAll p.lines r.inner)
    dsimp only [Rect.inner, Rect.right, Rect.bottom]
    omega

end Panel

namespace Scrollbar

theorem thumb_le (s : Scrollbar) (track height : Nat) (h : 0 < track) :
    (s.thumb track height).1 + (s.thumb track height).2 ≤ track := by
  unfold thumb
  simp only
  omega

theorem length_symbols (s : Scrollbar) {height : Nat} (h : 2 < height) : (s.symbols height).length = height := by
  have hthumb := s.thumb_le (height - 2) height (by omega)
  simp only [symbols, List.length_append, List.length_replicate, List.length_cons, List.length_nil]
  omega

theorem isInside_draw (s : Scrollbar) (r : Rect) : (s.draw r).isInside r = true := by
  unfold draw
  split
  case isTrue => rfl
  case isFalse hroom =>
  simp only [Bool.or_eq_true, decide_eq_true_iff, not_or] at hroom
  refine isInside_iff.mpr ?_
  intro p hp
  obtain ⟨j, hj, rfl⟩ := List.mem_mapIdx.mp hp
  rw [s.length_symbols (by omega)] at hj
  refine Stroke.isInside_iff.mpr ?_
  simp only [Rect.right, Rect.bottom]
  omega

end Scrollbar

theorem Rect.withoutEdges_isIn {r : Rect} (h : 2 ≤ r.height) : r.withoutEdges.IsIn r := by
  unfold withoutEdges
  rw [if_neg (Nat.not_lt.mpr h), isIn_iff]
  dsimp only
  omega

/-! ## 4. The status row -/

namespace StatusBar

variable {b : StatusBar} {r screen : Rect}

/-- **A status row whose first row is on the screen stays on the screen.** -/
theorem isInside_draw (b : StatusBar) (h : r.IsIn screen) (hrow : r.y < screen.bottom) :
    (b.draw r screen).isInside screen = true := by
  unfold draw
  simp only [isInside_append_iff]
  refine ⟨⟨isInside_of_clip (isInside_tinted _ _), ?_⟩, ?_⟩
  · exact Line.isInside_drawPlain _ (Nat.le_succ_of_le h.left) rfl h.top hrow
  · cases b.right with
    | none => rfl
    | some text =>
      simp only
      split
      case isTrue => exact Line.isInside_drawPlain _ (Nat.le_trans h.left (Nat.le_add_right _ _)) rfl h.top hrow
      case isFalse => rfl

/-- In two columns or less there is no room for anything, so nothing but the cells of the area is drawn. -/
theorem isInside_draw_of_narrow (b : StatusBar) (screen : Rect) (h : r.width ≤ 2) :
    (b.draw r screen).isInside screen = true := by
  have hnone : r.width - 2 = 0 := by omega
  have hhints : Line.drawPlain screen.right r.y (r.width - 2) (r.x + 1) (line b.hints) = [] := by
    rw [hnone]
    cases line b.hints with
    | nil => rfl
    | cons s l => rfl
  unfold draw
  simp only [isInside_append_iff, hhints]
  refine ⟨⟨isInside_of_clip (isInside_tinted _ _), rfl⟩, ?_⟩
  cases b.right with
  | none => rfl
  | some text =>
    simp only
    split
    case isTrue hroom => omega
    case isFalse => rfl

/-- The first sign of the hints is the bracket of the first key. -/
theorem mem_draw_viewerHints (right : Option String) (h : r.IsIn screen) (hwide : 2 < r.width) :
    ⟨r.x + 1, r.y, .draw "[" Theme.statusKey⟩ ∈ ({ hints := viewerHints, right } : StatusBar).draw r screen := by
  refine List.mem_append_left _ (List.mem_append_right _ ?_)
  obtain ⟨spans, hspans⟩ : ∃ spans, line viewerHints = ⟨"[/]", Theme.statusKey⟩ :: spans := ⟨_, rfl⟩
  obtain ⟨signs, hsigns⟩ : ∃ signs, Text.clusters "[/]" = "[" :: signs := ⟨_, rfl⟩
  have hcolumns : Text.columns "[" = 1 := rfl
  have hcontrol : Glyph.hasControl ⟨"[", Theme.statusKey⟩ = false := rfl
  have hright : r.right ≤ screen.right := h.right
  unfold Rect.right at hright
  have hroom : 1 ≤ min (r.width - 2) (screen.right - (r.x + 1)) := by
    unfold Rect.right
    omega
  rw [show ({ hints := viewerHints, right } : StatusBar).hints = viewerHints from rfl, hspans, Line.drawPlain,
    if_neg (by omega)]
  refine List.mem_append_left _ ?_
  rw [Span.glyphs, hsigns, List.map_cons, Glyph.emptied, Glyph.columns, hcolumns, hcontrol, if_neg (by simp),
    if_neg (by omega)]
  exact List.mem_cons_self

theorem isInside_draw_iff (right : Option String) (h : r.IsIn screen) :
    (({ hints := viewerHints, right } : StatusBar).draw r screen).isInside screen = true ↔
      r.y < screen.bottom ∨ r.width ≤ 2 := by
  constructor
  · intro hin
    by_cases hnarrow : r.width ≤ 2
    · exact Or.inr hnarrow
    · have hfirst := isInside_iff.mp hin _ (mem_draw_viewerHints right h (Nat.lt_of_not_le hnarrow))
      exact Or.inl (Stroke.isInside_iff.mp hfirst).2.2
  · rintro (hrow | hnarrow)
    · exact isInside_draw _ h hrow
    · exact isInside_draw_of_narrow _ _ hnarrow

end StatusBar

/-! ## 5. The log viewer -/

/-- The areas of the log viewer, top to bottom. -/
def Layout.areas (l : Layout) : List Rect := l.header :: (l.filterBar.toList ++ [l.table, l.status])

theorem Layout.isIn_of_mem_ofScreen {r a : Rect} {withFilterBar : Bool}
    (h : a ∈ (ofScreen r withFilterBar).areas) : a.IsIn r := by
  cases withFilterBar with
  | false =>
    simp only [areas, ofScreen, Bool.false_eq_true, if_false, Option.toList_none, List.nil_append, List.mem_cons,
      List.not_mem_nil, or_false] at h
    rcases h with rfl | rfl | rfl <;> refine Rect.isIn_iff.mpr ?_ <;> dsimp only <;> omega
  | true =>
    simp only [areas, ofScreen, if_true, Option.toList_some, List.singleton_append, List.mem_cons,
      List.not_mem_nil, or_false] at h
    rcases h with rfl | rfl | rfl | rfl <;> refine Rect.isIn_iff.mpr ?_ <;> dsimp only <;> omega

namespace Viewer

/-- What is drawn above the status row, in areas that are given. -/
def drawAbove (v : Viewer) (l : Layout) (screen : Rect) : Drawing :=
  let header : Panel := { lines := [v.headerLine], border := Theme.border }
  header.draw l.header screen ++
    ((l.filterBar.map fun r => (filterPanel v.state).draw r screen).getD []) ++
    (v.tablePanel l.table).draw l.table screen ++ v.drawScrollbar l.table

/-- **The log viewer in areas that are given**, however the screen was divided. -/
def drawIn (v : Viewer) (l : Layout) (screen : Rect) : Drawing :=
  let status : StatusBar := { hints := StatusBar.viewerHints, right := some v.statusText }
  v.drawAbove l screen ++ status.draw l.status screen

theorem drawLog_eq_drawIn (v : Viewer) (screen : Rect) : v.drawLog screen = v.drawIn (v.layout screen) screen := rfl

theorem isInside_drawScrollbar (v : Viewer) (r : Rect) : (v.drawScrollbar r).isInside r = true := by
  unfold drawScrollbar
  simp only
  split
  case isFalse => rfl
  case isTrue =>
  by_cases hrows : 2 ≤ r.height
  · exact isInside_mono (Rect.withoutEdges_isIn hrows) (Scrollbar.isInside_draw _ _)
  · rw [Rect.withoutEdges, if_pos (Nat.lt_of_not_le hrows), Scrollbar.draw, if_pos (by simp)]
    rfl

variable {l : Layout} {screen : Rect}

theorem isInside_drawAbove (v : Viewer) (h : ∀ a ∈ l.areas, a.IsIn screen) :
    (v.drawAbove l screen).isInside screen = true := by
  have htable : l.table.IsIn screen := h _ (by simp [Layout.areas])
  unfold drawAbove
  simp only [isInside_append_iff]
  refine ⟨⟨⟨Panel.isInside_draw _ _ _, ?_⟩, Panel.isInside_draw _ _ _⟩, ?_⟩
  · cases l.filterBar with
    | none => rfl
    | some r => exact Panel.isInside_draw _ _ _
  · exact isInside_mono htable (v.isInside_drawScrollbar _)

/-- **The log viewer stays on the screen exactly if the status row does.** -/
theorem isInside_drawIn_iff (v : Viewer) (h : ∀ a ∈ l.areas, a.IsIn screen) :
    (v.drawIn l screen).isInside screen = true ↔ l.status.y < screen.bottom ∨ l.status.width ≤ 2 := by
  have hstatus : l.status.IsIn screen := h _ (by simp [Layout.areas])
  unfold drawIn
  rw [isInside_append_iff, StatusBar.isInside_draw_iff _ hstatus]
  exact and_iff_right (v.isInside_drawAbove h)

theorem isIn_of_mem_layout (v : Viewer) (screen : Rect) : ∀ a ∈ (v.layout screen).areas, a.IsIn screen :=
  fun _ => Layout.isIn_of_mem_ofScreen

/-! ## 6. Every size -/

/-- **When the log viewer stays on the screen**, for every viewer, every size, and however the screen is divided
    into areas that lie on it.

    Whatever is above the status row always stays on the screen. The status row does exactly if its area begins
    on the screen, or is too narrow for anything to be drawn. An area that begins below the screen is what is
    left of a screen of one row under a table that keeps a row. The viewer divides the screen in such a way
    itself. -/
theorem stays_inside_iff_status_begins_inside (v : Viewer) (screen : Rect) :
    (∀ l : Layout, (∀ a ∈ l.areas, a.IsIn screen) →
      (v.drawAbove l screen).isInside screen = true ∧
      ((v.drawIn l screen).isInside screen = true ↔ l.status.y < screen.bottom ∨ l.status.width ≤ 2) ∧
      (screen.height ≤ 1 → 0 < l.table.height → l.table.bottom ≤ l.status.y → 2 < l.status.width →
        (v.drawIn l screen).isInside screen = false)) ∧
    (∀ a ∈ (v.layout screen).areas, a.IsIn screen) ∧
    ((v.drawLog screen).isInside screen = true ↔
      (v.layout screen).status.y < screen.bottom ∨ screen.width ≤ 2) := by
  refine ⟨?_, v.isIn_of_mem_layout screen, ?_⟩
  · intro l hl
    refine ⟨v.isInside_drawAbove hl, v.isInside_drawIn_iff hl, ?_⟩
    intro hlow htable horder hwide
    have hin : l.table.IsIn screen := hl _ (by simp [Layout.areas])
    have htop := hin.top
    rw [Bool.eq_false_iff, ne_eq, v.isInside_drawIn_iff hl]
    unfold Rect.bottom at horder ⊢
    omega
  · rw [drawLog_eq_drawIn]
    exact v.isInside_drawIn_iff (v.isIn_of_mem_layout screen)

/-- On a screen of twenty-four rows the areas lie on the screen, and so does what is drawn in them. -/
theorem stays_inside_on_usual_screen :
    (∀ a ∈ ((Viewer.new {}).layout (Rect.ofSize 80 24)).areas, a.IsIn (Rect.ofSize 80 24)) ∧
    ((Viewer.new {}).drawIn ((Viewer.new {}).layout (Rect.ofSize 80 24)) (Rect.ofSize 80 24)).isInside
      (Rect.ofSize 80 24) = true := by
  obtain ⟨hdivided, hareas, -⟩ := stays_inside_iff_status_begins_inside (Viewer.new {}) (Rect.ofSize 80 24)
  exact ⟨hareas, (hdivided _ hareas).2.1.mpr (Or.inl (by decide))⟩

/-- On a screen of one row the hints of the status row are drawn below it. -/
theorem leaves_screen_of_one_row :
    ((Viewer.new {}).drawLog (Rect.ofSize 40 1)).isInside (Rect.ofSize 40 1) = false := by
  rw [drawLog_eq_drawIn, Bool.eq_false_iff, ne_eq, isInside_drawIn_iff _ (isIn_of_mem_layout _ _)]
  decide

end Viewer
end LiveLog
