import LiveLog.Proofs.Screen.Inside
import LiveLog.Proofs.Text.Columns

/-!
# Toasts on the screen

Two numbers of a toast are counted in words of 16 bits, and they differ in what bounds them. Its **place** is
counted from its index, and an index is only reached when the toast before it got a place. So the height of the
screen bounds the index. That is not yet enough for the next toast, whose last row is counted before it is found
to lie too low; but all these rows are multiples of three, and so is the last number of a word, so there is room
for three more (`Layout.toastInWords?_eq`).

Its **width** is counted from the columns of its message, and nothing bounds a message. The columns are cut to a
word before they are compared with anything, so a message longer than all others may get the narrowest toast
(`width_eq_fitted_iff` says which ones do not).

That a count stays in its words is said by a second count, which looks at every number on its way and has no
result if one of them is no word (`Rect.inWord?`).
-/

namespace LiveLog

/-! ## 1. Words -/

/-- A number, if it is a word of 16 bits. -/
def Rect.inWord? (n : Nat) : Option Nat := if n ≤ limit then some n else none

theorem Rect.inWord?_of_le {n : Nat} (h : n ≤ limit) : inWord? n = some n := if_pos h

theorem Rect.inWord?_eq_none {n : Nat} (h : ¬ n ≤ limit) : inWord? n = none := if_neg h

/-! ## 2. The place of a toast -/

namespace Layout

/-- **The place of a toast counted in words.** There is no result, which is another thing than no place, if a sum
    or a product on the way is no word. -/
def toastInWords? (r : Rect) (index width : Nat) : Option (Option Rect) := do
  let width := min width (r.width - 2)
  let header ← Rect.inWord? (r.y + 3)
  let above ← Rect.inWord? (index * toastHeight)
  let y ← Rect.inWord? (header + above)
  if width = 0 then some none
  else
    let bottom ← Rect.inWord? (y + toastHeight)
    let last ← Rect.inWord? (r.y + (r.height - 1))
    if bottom > last then some none
    else
      let taken ← Rect.inWord? (width + 1)
      let x ← Rect.inWord? (r.x + (r.width - taken))
      some (some (Rect.make x y width toastHeight))

variable {width height : Nat}

/-- **The place of a toast on a screen**, if there is one: three rows below the header and the toasts before it,
    short of the last row, and at the right with one column free. -/
theorem toast_ofSize (hwidth : width ≤ Rect.limit) (hheight : height ≤ Rect.limit) (index asked : Nat) :
    toast (Rect.ofSize width height) index asked =
      if 0 < min asked (width - 2) ∧ 3 + 3 * index + 3 < height then
        some { x := width - (min asked (width - 2) + 1), y := 3 + 3 * index, width := min asked (width - 2),
               height := 3 }
      else none := by
  unfold Rect.limit at hwidth hheight
  unfold toast Rect.ofSize toastHeight
  simp only [Bool.or_eq_true, decide_eq_true_iff]
  by_cases hplace : 0 < min asked (width - 2) ∧ 3 + 3 * index + 3 < height
  · rw [if_pos hplace, if_neg (by omega)]
    congr 1
    unfold Rect.make Rect.limit
    simp only [Rect.mk.injEq]
    omega
  · rw [if_neg hplace, if_pos (by omega)]

/-- **Counting the place of a toast stays in words**, if there is none before it or the one before it has a
    place. -/
theorem toastInWords?_eq (hwidth : width ≤ Rect.limit) (hheight : height ≤ Rect.limit) {index : Nat}
    (hreached : index = 0 ∨ 3 * index + 3 < height) (asked : Nat) :
    toastInWords? (Rect.ofSize width height) index asked = some (toast (Rect.ofSize width height) index asked) := by
  have hlimit : Rect.limit = 65535 := rfl
  rw [hlimit] at hwidth hheight
  have hheader : 0 + 3 ≤ Rect.limit := by omega
  have habove : index * toastHeight ≤ Rect.limit := by unfold toastHeight; omega
  have hy : 0 + 3 + index * toastHeight ≤ Rect.limit := by unfold toastHeight; omega
  -- Three divides this sum and the limit, so below the limit there is room for all of it.
  have hbottom : 0 + 3 + index * toastHeight + toastHeight ≤ Rect.limit := by unfold toastHeight; omega
  have hlast : 0 + (height - 1) ≤ Rect.limit := by omega
  unfold toastInWords? toast Rect.ofSize
  simp only [Rect.inWord?_of_le hheader, Rect.inWord?_of_le habove, Rect.inWord?_of_le hy,
    Rect.inWord?_of_le hbottom, Rect.inWord?_of_le hlast, Option.bind_eq_bind, Option.bind_some,
    Bool.or_eq_true, decide_eq_true_iff]
  by_cases hnone : min asked (width - 2) = 0
  · simp only [hnone, true_or, if_true]
  · by_cases hlow : 0 + 3 + index * toastHeight + toastHeight > 0 + (height - 1)
    · simp only [hnone, hlow, or_true, if_true, if_false]
    · have htaken : min asked (width - 2) + 1 ≤ Rect.limit := by omega
      have hx : 0 + (width - (min asked (width - 2) + 1)) ≤ Rect.limit := by omega
      simp only [hnone, hlow, or_self, if_false, Rect.inWord?_of_le htaken, Rect.inWord?_of_le hx, Option.bind_some]

end Layout

/-! ## 3. All places -/

theorem Rect.disjoint_cells_of_above {r s : Rect} (h : r.bottom ≤ s.y) : r.cells.Disjoint s.cells := by
  intro c hr hs
  have habove := (mem_cells.mp hr).2
  have hbelow := (mem_cells.mp hs).2
  omega

namespace Toast

/-- **The places for toasts that ask for some widths**, up to the first that gets none. -/
def places (screen : Rect) : (index : Nat) → List Nat → List Rect
  | _, [] => []
  | index, asked :: rest =>
    match Layout.toast screen index asked with
    | none => []
    | some r => r :: places screen (index + 1) rest

/-- Messages in places. -/
def drawIn (screen : Rect) (rs : List Rect) (ns : List Notification) : Drawing :=
  (rs.zip ns).flatMap fun (r, n) => Drawing.wiped r ++ (panel n).draw r screen

theorem drawIn_nil (screen : Rect) (ns : List Notification) : drawIn screen [] ns = [] := rfl

theorem drawIn_cons (screen r : Rect) (rs : List Rect) (n : Notification) (ns : List Notification) :
    drawIn screen (r :: rs) (n :: ns) = Drawing.wiped r ++ (panel n).draw r screen ++ drawIn screen rs ns := by
  rw [drawIn, List.zip_cons_cons, List.flatMap_cons]
  rfl

theorem drawFrom_eq (screen : Rect) (index : Nat) (ns : List Notification) :
    drawFrom screen index ns = drawIn screen (places screen index (ns.map width)) ns := by
  induction ns generalizing index with
  | nil => rfl
  | cons n ns ih =>
    -- The equation for this case alone would have to unfold what is drawn.
    rw [drawFrom.eq_def, List.map_cons, places]
    dsimp only
    cases Layout.toast screen index (width n) with
    | none => exact (drawIn_nil screen _).symm
    | some r => simp only [ih (index + 1), drawIn_cons]

variable {screen : Rect} {asked : List Nat}

/-- Every place is the place of the toast of its index. -/
theorem toast_of_getElem?_places {index i : Nat} {r : Rect} (h : (places screen index asked)[i]? = some r) :
    ∃ a, asked[i]? = some a ∧ Layout.toast screen (index + i) a = some r := by
  induction asked generalizing index i with
  | nil => exact absurd h (by simp [places])
  | cons a rest ih =>
    rw [places] at h
    cases hplace : Layout.toast screen index a with
    | none => exact absurd h (by simp [hplace])
    | some s =>
      rw [hplace] at h
      cases i with
      | zero => exact ⟨a, rfl, hplace.trans h⟩
      | succ i =>
        have hrest : (places screen (index + 1) rest)[i]? = some r := h
        obtain ⟨b, hb, hnext⟩ := ih hrest
        exact ⟨b, hb, by rwa [Nat.add_assoc, Nat.add_comm 1 i] at hnext⟩

/-- If there are fewer places than toasts, the next toast got none. -/
theorem toast_length_places (index : Nat) (h : (places screen index asked).length < asked.length) :
    ∃ a ∈ asked, Layout.toast screen (index + (places screen index asked).length) a = none := by
  induction asked generalizing index with
  | nil => exact absurd h (Nat.not_lt_zero _)
  | cons a rest ih =>
    rw [places] at h ⊢
    cases hplace : Layout.toast screen index a with
    | none => exact ⟨a, List.mem_cons_self, hplace⟩
    | some s =>
      rw [hplace] at h
      obtain ⟨b, hb, hnone⟩ := ih (index + 1) (Nat.lt_of_succ_lt_succ h)
      refine ⟨b, List.mem_cons_of_mem a hb, ?_⟩
      rw [List.length_cons, Nat.add_comm _ 1, ← Nat.add_assoc]
      exact hnone

variable {width height : Nat}

/-- **The place of an index**, on a screen of a size. -/
theorem place_eq (hwidth : width ≤ Rect.limit) (hheight : height ≤ Rect.limit) {i : Nat} {r : Rect}
    (h : (places (Rect.ofSize width height) 0 asked)[i]? = some r) :
    r.y = 3 + 3 * i ∧ r.height = 3 ∧ r.bottom < height ∧ 0 < r.width ∧ r.right + 1 = width := by
  obtain ⟨a, -, hplace⟩ := toast_of_getElem?_places h
  rw [Nat.zero_add, Layout.toast_ofSize hwidth hheight] at hplace
  split at hplace
  case isTrue hfits =>
    obtain rfl := Option.some.inj hplace
    refine ⟨rfl, rfl, hfits.2, hfits.1, ?_⟩
    unfold Rect.right
    dsimp only
    omega
  case isFalse => exact absurd hplace (by simp)

theorem pairwise_places (hwidth : width ≤ Rect.limit) (hheight : height ≤ Rect.limit) (asked : List Nat) :
    (places (Rect.ofSize width height) 0 asked).Pairwise fun r s => r.cells.Disjoint s.cells := by
  refine List.pairwise_iff_getElem.mpr ?_
  intro i j hi hj hij
  obtain ⟨hyi, hrows, -⟩ := place_eq hwidth hheight (List.getElem?_eq_getElem hi)
  obtain ⟨hyj, -⟩ := place_eq hwidth hheight (List.getElem?_eq_getElem hj)
  refine Rect.disjoint_cells_of_above ?_
  unfold Rect.bottom
  omega

/-- An index is reached if it is the first, or if the one before it got a place short of the last row. -/
theorem reached_of_le (hwidth : width ≤ Rect.limit) (hheight : height ≤ Rect.limit) {i : Nat}
    (h : i ≤ (places (Rect.ofSize width height) 0 asked).length) : i = 0 ∨ 3 * i + 3 < height := by
  cases i with
  | zero => exact Or.inl rfl
  | succ i =>
    obtain ⟨hy, hrows, hbottom, -⟩ := place_eq hwidth hheight (List.getElem?_eq_getElem h)
    unfold Rect.bottom at hbottom
    exact Or.inr (by omega)

/-- Toasts get no place only when the next one would reach into the last row, or when there is no room for one. -/
theorem no_room_of_fewer_places (hwidth : width ≤ Rect.limit) (hheight : height ≤ Rect.limit)
    (hasked : ∀ a ∈ asked, 1 ≤ a) (h : (places (Rect.ofSize width height) 0 asked).length < asked.length) :
    width ≤ 2 ∨ height ≤ 3 + 3 * (places (Rect.ofSize width height) 0 asked).length + 3 := by
  obtain ⟨a, ha, hnone⟩ := toast_length_places 0 h
  have hpos : 1 ≤ a := hasked a ha
  rw [Nat.zero_add, Layout.toast_ofSize hwidth hheight] at hnone
  split at hnone
  case isTrue => exact absurd hnone (by simp)
  case isFalse hnoplace => omega

/-- **Toasts are stacked on the screen**, for every size of the screen and any widths that are asked for.

    Each has three rows, the first of them below the header and the last above the last row of the screen, and
    some columns, with one column of the screen free to its right. No two share a cell. Counting their places
    stays in words for every index that is reached, also for one that gets no place. Toasts get no place only when
    the next one would reach into the last row or no column is left between the free ones. These places are where
    the messages of a queue are drawn. -/
theorem places_stack (hwidth : width ≤ Rect.limit) (hheight : height ≤ Rect.limit) (hasked : ∀ a ∈ asked, 1 ≤ a) :
    let screen := Rect.ofSize width height
    let found := places screen 0 asked
    (∀ r ∈ found, r.height = 3 ∧ 3 ≤ r.y ∧ r.bottom < height ∧ 0 < r.width ∧ r.right + 1 = width) ∧
    found.Pairwise (fun r s => r.cells.Disjoint s.cells) ∧
    (∀ i a, i ≤ found.length → asked[i]? = some a →
      i ≤ Rect.limit ∧ Layout.toastInWords? screen i a = some (Layout.toast screen i a)) ∧
    (found.length < asked.length → width ≤ 2 ∨ height ≤ 3 + 3 * found.length + 3) ∧
    (∀ ns : List Notification, ns.map Toast.width = asked → drawFrom screen 0 ns = drawIn screen found ns) := by
  intro screen found
  refine ⟨?_, pairwise_places hwidth hheight asked, ?_, no_room_of_fewer_places hwidth hheight hasked, ?_⟩
  · intro r hr
    obtain ⟨i, hi⟩ := List.getElem?_of_mem hr
    obtain ⟨hy, hrows, hbottom, hcolumns, hfree⟩ := place_eq hwidth hheight hi
    exact ⟨hrows, by omega, hbottom, hcolumns, hfree⟩
  · intro i a hi _
    have hreached := reached_of_le hwidth hheight hi
    exact ⟨by omega, Layout.toastInWords?_eq hwidth hheight hreached a⟩
  · rintro ns rfl
    exact drawFrom_eq screen 0 ns

/-- A screen of twelve rows has places for two of three toasts. -/
theorem places_stack_twelve_rows :
    80 ≤ Rect.limit ∧ 12 ≤ Rect.limit ∧ (∀ a ∈ [40, 90, 20], 1 ≤ a) ∧
    places (Rect.ofSize 80 12) 0 [40, 90, 20] = [⟨39, 3, 40, 3⟩, ⟨1, 6, 78, 3⟩] ∧
    (places (Rect.ofSize 80 12) 0 [40, 90, 20]).Pairwise (fun r s => r.cells.Disjoint s.cells) ∧
    Layout.toastInWords? (Rect.ofSize 80 12) 2 20 = some none := by
  have hwidth : 80 ≤ Rect.limit := by decide
  have hheight : 12 ≤ Rect.limit := by decide
  have hasked : ∀ a ∈ [40, 90, 20], 1 ≤ a := by decide
  obtain ⟨-, hdisjoint, hwords, -⟩ := places_stack hwidth hheight hasked
  exact ⟨hwidth, hheight, hasked, by decide, hdisjoint, (hwords 2 20 (by decide) rfl).2⟩

/-! ## 4. The width of a toast -/

/-- **The width for a message of some columns**: its columns and the frame around it, brought within bounds. -/
def fitted (columns : Nat) : Nat := min (max (columns + 4) 20) 48

/-- The width for a message counted in words. There is no result if a number on the way is no word. -/
def fittedInWords? (columns : Nat) : Option Nat := do
  let own ← Rect.inWord? columns
  let framed ← Rect.inWord? (own + 4)
  some (min (max framed 20) 48)

theorem fittedInWords?_eq (columns : Nat) :
    fittedInWords? columns = if columns ≤ 65531 then some (fitted columns) else none := by
  have hlimit : Rect.limit = 65535 := rfl
  unfold fittedInWords?
  by_cases hframed : columns ≤ 65531
  · have hown : columns ≤ Rect.limit := by omega
    have hsum : columns + 4 ≤ Rect.limit := by omega
    rw [if_pos hframed, Rect.inWord?_of_le hown, Option.bind_eq_bind, Option.bind_some, Rect.inWord?_of_le hsum]
    rfl
  · rw [if_neg hframed]
    by_cases hown : columns ≤ Rect.limit
    · have hsum : ¬ columns + 4 ≤ Rect.limit := by omega
      rw [Rect.inWord?_of_le hown, Option.bind_eq_bind, Option.bind_some, Rect.inWord?_eq_none hsum]
      rfl
    · rw [Rect.inWord?_eq_none hown]
      rfl

theorem width_eq (n : Notification) :
    Toast.width n = min (max ((Text.columns n.message % 65536 + 4) % 65536) 20) 48 := rfl

/-- **When a toast is as wide as its message asks for.** -/
theorem width_eq_fitted_iff (n : Notification) :
    Toast.width n = fitted (Text.columns n.message) ↔ Text.columns n.message ≤ 65531 ∨
      44 ≤ Text.columns n.message % 65536 ∧ Text.columns n.message % 65536 ≤ 65531 := by
  rw [width_eq]
  generalize Text.columns n.message = columns
  unfold fitted
  omega

theorem width_bounds (n : Notification) : 20 ≤ Toast.width n ∧ Toast.width n ≤ 48 := by
  rw [width_eq]
  omega

/-- **What width a toast asks for**, for every queue of messages and every screen.

    The messages are drawn in the places that their widths get. The width of a message is the one that its columns
    ask for exactly if these and the frame around them are at most a word, or if what the count leaves of them is
    enough for the widest toast by itself. Counting it stays in words exactly in the first case. -/
theorem asks_for_fitted_iff (q : Notifications) (screen : Rect) :
    draw q screen = drawIn screen (places screen 0 (q.items.map Toast.width)) q.items ∧
    ∀ n ∈ q.items,
      (Toast.width n = fitted (Text.columns n.message) ↔ Text.columns n.message ≤ 65531 ∨
        44 ≤ Text.columns n.message % 65536 ∧ Text.columns n.message % 65536 ≤ 65531) ∧
      fittedInWords? (Text.columns n.message) =
        (if Text.columns n.message ≤ 65531 then some (Toast.width n) else none) ∧
      20 ≤ Toast.width n ∧ Toast.width n ≤ 48 := by
  refine ⟨drawFrom_eq screen 0 q.items, ?_⟩
  intro n _
  refine ⟨width_eq_fitted_iff n, ?_, width_bounds n⟩
  rw [fittedInWords?_eq]
  split
  case isTrue hwords => rw [(width_eq_fitted_iff n).mpr (Or.inl hwords)]
  case isFalse => rfl

/-- A message whose columns and frame are within the bounds, between a short one and a long one. -/
theorem asks_for_fitted_of_own_columns :
    let q : Notifications := { items :=
      [⟨.success, "Connected", .ofMillis 0⟩, ⟨.success, "Saved downloads/日本.txt", .ofMillis 0⟩,
       ⟨.error, "Failed to load logs: server error: database is locked", .ofMillis 0⟩] }
    ⟨.success, "Saved downloads/日本.txt", .ofMillis 0⟩ ∈ q.items ∧
    q.items.map Toast.width = [20, 28, 48] ∧
    Toast.width ⟨.success, "Saved downloads/日本.txt", .ofMillis 0⟩ =
      fitted (Text.columns "Saved downloads/日本.txt") := by
  intro q
  have hmem : ⟨.success, "Saved downloads/日本.txt", .ofMillis 0⟩ ∈ q.items :=
    List.mem_cons_of_mem _ List.mem_cons_self
  have hcolumns : Text.columns "Saved downloads/日本.txt" ≤ 65531 := by decide +kernel
  refine ⟨hmem, by decide +kernel, ?_⟩
  exact ((asks_for_fitted_iff q (Rect.ofSize 80 24)).2 _ hmem).1.mpr (Or.inl hcolumns)

/-- The columns of what the user is told when the server fails to load the log, with a text of plain letters. -/
theorem columns_failedToLoad {text : String} (h : ∀ c ∈ text.toList, Text.isOneCell c = true) :
    Text.columns ("Failed to " ++ "load logs" ++ ": " ++ (ClientError.application text).message) =
      text.length + 35 := by
  have hwords : ∀ s ∈ ["Failed to ", "load logs", ": ", "server error: "], ∀ c ∈ s.toList,
      Text.isOneCell c = true := by
    simp only [← List.all_eq_true]
    decide +kernel
  have hcells : ∀ c ∈ ("Failed to " ++ "load logs" ++ ": " ++ ("server error: " ++ text)).toList,
      Text.isOneCell c = true := by
    intro c hc
    simp only [String.toList_append, List.mem_append] at hc
    rcases hc with ((hc | hc) | hc) | hc | hc
    · exact hwords _ (by simp) c hc
    · exact hwords _ (by simp) c hc
    · exact hwords _ (by simp) c hc
    · exact hwords _ (by simp) c hc
    · exact h c hc
  have hlength : ("Failed to " ++ "load logs" ++ ": " ++ ("server error: " ++ text)).length = text.length + 35 := by
    have hpurpose : "Failed to ".length + "load logs".length + ": ".length = 21 := by decide
    have hserver : "server error: ".length = 14 := by decide
    simp only [String.length_append]
    omega
  exact (Text.columns_of_oneCell hcells).trans hlength

theorem mem_items_failed (v : Viewer) (now : Duration) (purpose : String) (error : ClientError) :
    ⟨.error, "Failed to " ++ purpose ++ ": " ++ error.message, now⟩ ∈
      (v.handleFinished now (.failed purpose error false)).state.notifications.items :=
  List.mem_append_right _ (List.mem_singleton.mpr rfl)

/-- Of whole words the count leaves nothing. -/
theorem width_of_dvd {n : Notification} (h : 65536 ∣ Text.columns n.message) : Toast.width n = 20 := by
  rw [width_eq, Nat.mod_eq_zero_of_dvd h]
  rfl

theorem fitted_of_le {columns : Nat} (h : 44 ≤ columns) : fitted columns = 48 := by
  unfold fitted
  omega

theorem isOneCell_letters (n : Nat) : ∀ c ∈ (String.ofList (List.replicate n 'x')).toList, Text.isOneCell c = true := by
  intro c hc
  rw [String.toList_ofList] at hc
  rw [List.eq_of_mem_replicate hc]
  decide +kernel

theorem narrow_of_failure {text : String} (h : ∀ c ∈ text.toList, Text.isOneCell c = true)
    (hlength : text.length + 35 = 65536) :
    ∃ n ∈ ((Viewer.new {}).handleFinished (.ofMillis 0)
        (.failed "load logs" (.application text) false)).state.notifications.items,
      Toast.width n = 20 ∧ fitted (Text.columns n.message) = 48 := by
  have hcolumns := (columns_failedToLoad h).trans hlength
  exact ⟨_, mem_items_failed _ _ _ _, width_of_dvd ⟨1, hcolumns⟩, fitted_of_le (hcolumns.symm ▸ by decide)⟩

/-- A server that fails a request with 65501 letters gets a message of as many columns as there are words, and its
    toast is the narrowest instead of the widest. -/
theorem long_failure_gets_narrow_toast :
    ∃ n ∈ ((Viewer.new {}).handleFinished (.ofMillis 0) (.failed "load logs"
        (.application (String.ofList (List.replicate 65501 'x'))) false)).state.notifications.items,
      Toast.width n = 20 ∧ fitted (Text.columns n.message) = 48 := by
  have hlength : (String.ofList (List.replicate 65501 'x')).length = 65501 :=
    String.length_ofList.trans List.length_replicate
  exact narrow_of_failure (isOneCell_letters 65501) (congrArg (· + 35) hlength)

end Toast
end LiveLog
