import LiveLog.Proofs.View.History
import LiveLog.Proofs.Viewer.Stimulus
import Mathlib

/-!
# A paused table

While a table does not follow, somebody reads it, and what arrives meanwhile has to leave its rows where
they are. Four things move rows, and none of them knows of the others: a visible record pushes them down,
the scroll position goes along with it, the cap takes entries away at the far end, and drawing pulls the
scroll position back when less is left below it than the table has rows. A hidden record that evicts a
visible one sets off the last two without the first.

So nothing is said here about the rows from one frame to the next. **`Since`** compares a viewer with what
it was some frames ago: all that entered stands above what there was, of both together the cap has left
the front, and the scroll position has gone as far as there are visible entries among those that entered.
From this the rows follow without another look at the frames (`Since.shownOn_eq`), as soon as one thing is
known of the cap, that the last row is still there. Entries leave at the far end only, so all rows above
it are there as well (`Since.take_visible`), and since those fill the table, drawing has no reason to pull.

An entry that was in the table is none of those that entered. That is known from the numbers alone, which
is why `Since` has them descend through both parts.
-/

namespace LiveLog

/-! ## 1. Fronts of lists -/

/-- A front of a list that has an element of the list has all that stands before it. -/
theorem isPrefix_of_mem {α : Type} {front before after : List α} {a : α} (h : front <+: before ++ a :: after)
    (ha : a ∈ front) (hbefore : a ∉ before) : before ++ [a] <+: front := by
  have hthrough : before ++ [a] <+: before ++ a :: after := ⟨after, by rw [List.append_assoc]; rfl⟩
  rcases List.prefix_or_prefix_of_prefix hthrough h with hfront | hshort
  · exact hfront
  · rcases List.prefix_concat_iff.mp hshort with heq | hshort
    · exact heq ▸ List.prefix_rfl
    · exact absurd (hshort.subset ha) hbefore

/-- Rows are where they were, as far down as something came above them. -/
theorem take_drop_of_isPrefix {α : Type} {above before after : List α} {first rows : Nat}
    (h : above ++ before.take (first + rows) <+: after) (hfull : first + rows ≤ before.length) :
    (after.drop (above.length + first)).take rows = (before.drop first).take rows := by
  obtain ⟨rest, rfl⟩ := h
  have hlength : (before.take (first + rows)).length = first + rows := List.length_take_of_le hfull
  have hrows : (before.take (first + rows)).drop first = (before.drop first).take rows := by
    rw [List.drop_take, Nat.add_sub_cancel_left]
  have hcount : ((before.drop first).take rows).length = rows := by
    rw [List.length_take, List.length_drop]
    omega
  calc ((above ++ before.take (first + rows) ++ rest).drop (above.length + first)).take rows
      = ((before.take (first + rows) ++ rest).drop first).take rows := by
        rw [List.append_assoc, ← List.drop_drop, List.drop_left]
    _ = ((before.drop first).take rows ++ rest).take rows := by
        rw [List.drop_append_of_le_length (by omega), hrows]
    _ = (before.drop first).take rows := List.take_left' hcount

/-! ## 2. Numbers of a view -/

namespace LogView

/-- **A view under a cap**: it has no more entries than that, and they are numbered downwards, below the
    next number. -/
structure Numbered (cap : Nat) (v : LogView) : Prop where
  cap_eq : v.cap = max cap 1
  size_le : v.entries.length ≤ max cap 1
  below : ∀ e ∈ v.entries, e.id < v.nextId
  descending : v.entries.Pairwise fun a b => b.id < a.id

theorem Numbered.cap_pos {cap : Nat} {v : LogView} (h : Numbered cap v) : 0 < v.cap := by
  rw [h.cap_eq]
  exact Nat.lt_of_lt_of_le Nat.zero_lt_one (Nat.le_max_right cap 1)

theorem numbered_run (cap : Nat) (cs : List Change) : Numbered cap ((LogView.new cap).run cs) := by
  have h : Tracks cap (edits cs) ((LogView.new cap).run cs) := by
    rw [run_eq_editAll]
    exact tracks_editAll cap (edits cs)
  constructor
  case cap_eq => exact h.cap_eq
  case size_le =>
    rw [h.entries_eq, List.length_map]
    exact List.length_take_le _ _
  case below =>
    intro e he
    rw [h.entries_eq] at he
    obtain ⟨x, hx, rfl⟩ := List.mem_map.mp he
    obtain ⟨hplace, -⟩ := List.getElem?_eq_some_iff.mp (getElem?_of_mem_history (List.mem_of_mem_take hx))
    rw [h.nextId_eq]
    exact hplace
  case descending =>
    have hchain : (history (edits cs)).IsChain fun a b => b.2 < a.2 :=
      (history_isChain (edits cs)).imp fun a b hab => by omega
    have : Trans (fun a b : Record × Nat => b.2 < a.2) (fun a b : Record × Nat => b.2 < a.2)
        (fun a b : Record × Nat => b.2 < a.2) := ⟨fun hab hbc => Nat.lt_trans hbc hab⟩
    rw [h.entries_eq, List.pairwise_map]
    exact hchain.pairwise.sublist (List.take_sublist _ _)

theorem newestIsVisible_ingest {v : LogView} (hcap : 0 < v.cap) (r : Record) :
    (v.ingest r).newestIsVisible = v.filter.passes r := by
  obtain ⟨room, hroom⟩ := Nat.exists_eq_succ_of_ne_zero hcap.ne'
  rw [newestIsVisible, ingest, hroom, List.take_succ_cons]

end LogView

namespace Viewer

/-! ## 3. Frames -/

/-- Frames as turns of a run, each with the moment at which it came. -/
def arriving (frames : List (Duration × String)) : List (Duration × Stimulus) :=
  frames.map fun x => (x.1, .transport (.frame x.2))

/-- A pushed record enters the log, and the state is told. -/
def takeRecord (v : Viewer) (r : Record) : Viewer :=
  { v with
    log := v.log.ingest r
    state := (v.state.recordArrived (v.log.ingest r).newestIsVisible).touch }

/-- **What a frame can do to a viewer**: a record enters, or no entry and no scroll position changes. -/
theorem handleFrame_cases (v : Viewer) (text : String) :
    (∃ r, Frame.read? text = some (.log r) ∧ v.handleFrame text = v.takeRecord r) ∨
    ((∀ r, Frame.read? text ≠ some (.log r)) ∧
      ∃ correlator counters clients stale, v.handleFrame text = { v with
        correlator, log := { v.log with counters, clients }, state := { v.state with stale } }) := by
  have hlands := Frame.lands_route text v.correlator v.log
  unfold handleFrame
  revert hlands
  generalize Frame.route text v.correlator v.log = routed
  obtain ⟨answer, correlator, log⟩ := routed
  intro hlands
  cases hlands with
  | log r hread => exact Or.inl ⟨r, hread, rfl⟩
  | stats x hread | resolved r hread hpending | unmatched r hread hpending | ignored type hread
  | malformed hread => exact Or.inr ⟨by simp [hread], _, _, _, _, rfl⟩

theorem handleFrame_of_log {text : String} {r : Record} (hread : Frame.read? text = some (.log r))
    (v : Viewer) : v.handleFrame text = v.takeRecord r := by
  rcases v.handleFrame_cases text with ⟨r', hread', hframe⟩ | ⟨hnone, -⟩
  · obtain rfl : r = r' := by simpa [hread] using hread'
    exact hframe
  · exact absurd hread (hnone r)

theorem live_arriving_nil (v : Viewer) : v.live (arriving []) = v := rfl

theorem live_arriving_cons (v : Viewer) (x : Duration × String) (rest : List (Duration × String)) :
    v.live (arriving (x :: rest)) = (v.handleFrame x.2).live (arriving rest) := rfl

/-! ## 4. What was and what entered -/

/-- **A viewer `u` some frames after a viewer `v`**, with the entries that entered since, newest first. -/
structure Since (v : Viewer) (newer : List Entry) (u : Viewer) : Prop where
  cap : u.log.cap = v.log.cap
  /-- What there is was there or entered, and the cap took from the far end only. -/
  entries : u.log.entries <+: newer ++ v.log.entries
  below : ∀ e ∈ newer ++ v.log.entries, e.id < u.log.nextId
  descending : (newer ++ v.log.entries).Pairwise fun a b => b.id < a.id
  state : u.state = { v.state with scroll := u.state.scroll, stale := u.state.stale }
  /-- The scroll position went along, if it did not come to its end. -/
  scroll : v.state.scroll + (newer.filter (·.visible)).length ≤ ViewerState.furthestScroll →
    u.state.scroll = v.state.scroll + (newer.filter (·.visible)).length

namespace Since

variable {v u : Viewer} {newer : List Entry}

theorem refl {cap : Nat} (h : v.log.Numbered cap) : Since v [] v where
  cap := rfl
  entries := List.prefix_rfl
  below := h.below
  descending := h.descending
  state := rfl
  scroll := fun _ => rfl

theorem takeRecord (h : Since v newer u) (hcap : 0 < v.log.cap) (hpaused : v.state.following = false)
    (r : Record) :
    let e : Entry := { id := u.log.nextId, record := r, visible := u.log.filter.passes r }
    Since v (e :: newer) (u.takeRecord r) := by
  intro e
  have hroom : 0 < u.log.cap := by rw [h.cap]; exact hcap
  have hstill : u.state.following = false := by rw [h.state]; exact hpaused
  have htold : (u.log.ingest r).newestIsVisible = e.visible := LogView.newestIsVisible_ingest hroom r
  constructor
  case cap => exact h.cap
  case entries =>
    have hfront : (u.takeRecord r).log.entries <+: e :: u.log.entries := List.take_prefix _ _
    exact hfront.trans (List.cons_prefix_cons.mpr ⟨rfl, h.entries⟩)
  case below =>
    intro x hx
    rcases List.mem_cons.mp hx with rfl | hx
    · exact Nat.lt_succ_self _
    · exact Nat.lt_succ_of_lt (h.below x hx)
  case descending => exact List.pairwise_cons.mpr ⟨h.below, h.descending⟩
  case state =>
    obtain ⟨scroll, hscroll⟩ := u.state.recordArrived_eq (u.log.ingest r).newestIsVisible
    rw [Viewer.takeRecord, hscroll, h.state]
    rfl
  case scroll =>
    intro hfar
    show (u.state.recordArrived (u.log.ingest r).newestIsVisible).scroll = _
    rw [htold, ViewerState.recordArrived, hstill]
    cases hvisible : e.visible with
    | false =>
      have hcount : (e :: newer).filter (·.visible) = newer.filter (·.visible) :=
        List.filter_cons_of_neg (by simp [hvisible])
      rw [hcount] at hfar ⊢
      exact h.scroll hfar
    | true =>
      have hcount : (e :: newer).filter (·.visible) = e :: newer.filter (·.visible) :=
        List.filter_cons_of_pos hvisible
      rw [hcount, List.length_cons] at hfar ⊢
      have hbefore := h.scroll (Nat.le_of_succ_le hfar)
      show min (u.state.scroll + 1) ViewerState.furthestScroll = _
      rw [hbefore, Nat.add_assoc]
      exact Nat.min_eq_left hfar

theorem frame (h : Since v newer u) (hcap : 0 < v.log.cap) (hpaused : v.state.following = false)
    (text : String) : ∃ newer, Since v newer (u.handleFrame text) := by
  rcases u.handleFrame_cases text with ⟨r, -, hframe⟩ | ⟨-, _, _, _, _, hframe⟩
  · rw [hframe]
    exact ⟨_, h.takeRecord hcap hpaused r⟩
  · rw [hframe]
    refine ⟨newer, h.cap, h.entries, h.below, h.descending, ?_, h.scroll⟩
    dsimp only
    rw [h.state]

theorem frames (h : Since v newer u) (hcap : 0 < v.log.cap) (hpaused : v.state.following = false)
    (texts : List (Duration × String)) : ∃ newer, Since v newer (u.live (arriving texts)) := by
  -- Only the later viewer moves on; what it is compared with stays.
  induction texts generalizing u newer with
  | nil => exact ⟨newer, h⟩
  | cons x rest ih =>
    obtain ⟨newer', h'⟩ := h.frame hcap hpaused x.2
    rw [live_arriving_cons]
    exact ih h'

/-! ## 5. Rows -/

/-- **If a visible entry is still there, so are all that stood above it**, below those that entered. -/
theorem visible_through (h : Since v newer u) {above below : List Entry} {e : Entry}
    (hvisible : v.log.visible = above ++ e :: below) (hthere : e ∈ u.log.entries) :
    newer.filter (·.visible) ++ (above ++ [e]) <+: u.log.visible := by
  -- Hidden entries stand between the visible ones, so the entry is looked for among all of them first.
  obtain ⟨front, rest, hsplit, hfront, hrest⟩ := List.filter_eq_append_iff.mp hvisible
  obtain ⟨hidden, behind, rfl, hhidden, he, -⟩ := List.filter_eq_cons_iff.mp hrest
  have hall : newer ++ v.log.entries = (newer ++ front ++ hidden) ++ e :: behind := by
    rw [hsplit]
    simp only [List.append_assoc]
  have hnew : e ∉ newer ++ front ++ hidden := by
    intro hmem
    have hdescending := h.descending
    rw [hall] at hdescending
    have hself := (List.pairwise_append.mp hdescending).2.2 e hmem e List.mem_cons_self
    exact absurd hself (Nat.lt_irrefl _)
  have hkept : (newer ++ front ++ hidden) ++ [e] <+: u.log.entries :=
    isPrefix_of_mem (hall ▸ h.entries) hthere hnew
  have hnone : hidden.filter (·.visible) = [] := List.filter_eq_nil_iff.mpr hhidden
  have hshown := hkept.filter (·.visible)
  rw [List.filter_append, List.filter_append, List.filter_append, hfront, hnone, List.append_nil,
    List.filter_cons_of_pos he, List.filter_nil, List.append_assoc] at hshown
  exact hshown

/-- **While the last row of a full table is there, all rows are**, and what stood above them. -/
theorem take_visible (h : Since v newer u) {rows : Nat} (hrows : 0 < rows)
    (hfull : v.state.scroll + rows ≤ v.log.visibleCount)
    (hlast : ∀ e ∈ (v.window rows).getLast?, e ∈ u.log.entries) :
    newer.filter (·.visible) ++ v.log.visible.take (v.state.scroll + rows) <+: u.log.visible := by
  obtain ⟨n, rfl⟩ := Nat.exists_eq_succ_of_ne_zero hrows.ne'
  have hn : v.state.scroll + n < v.log.visible.length := hfull
  have hlength : (v.window (n + 1)).length = n + 1 := by
    rw [window, List.length_take, List.length_drop]
    omega
  -- The table is full, so the entry in its last row is the one at this place among the visible ones.
  have hlastRow : (v.window (n + 1)).getLast? = some v.log.visible[v.state.scroll + n] := by
    rw [List.getLast?_eq_getElem?, hlength, Nat.add_sub_cancel, window,
      List.getElem?_take_of_lt (Nat.lt_succ_self n), List.getElem?_drop, List.getElem?_eq_getElem hn]
  have hsplit : v.log.visible = v.log.visible.take (v.state.scroll + n) ++
      v.log.visible[v.state.scroll + n] :: v.log.visible.drop (v.state.scroll + n + 1) := by
    rw [← List.drop_eq_getElem_cons hn, List.take_append_drop]
  have hthrough := h.visible_through hsplit (hlast _ hlastRow)
  rwa [List.take_append_getElem hn] at hthrough

end Since

/-- The rows of the table on a screen. -/
def rowsOn (v : Viewer) (width height : Nat) : Nat := tableRows (v.layout (Rect.ofSize width height)).table

/-- **The entries that the table of a screen shows**, from its first row on. -/
def shownOn (v : Viewer) (width height : Nat) : List Entry := v.window (v.rowsOn width height)

theorem Since.rowsOn_eq {v u : Viewer} {newer : List Entry} (h : Since v newer u) (width height : Nat) :
    u.rowsOn width height = v.rowsOn width height := by
  rw [rowsOn, rowsOn, layout, layout, h.state]
  rfl

theorem scroll_render (v : Viewer) (width height : Nat) :
    (v.render width height).2.state.scroll = if v.state.following then 0
      else min v.state.scroll (v.log.visibleCount - v.rowsOn width height) := rfl

theorem shownOn_render (v : Viewer) (width height : Nat) : (v.render width height).2.shownOn width height =
    (v.log.visible.drop (v.render width height).2.state.scroll).take (v.rowsOn width height) := rfl

/-- **The rows stay**, also when the table is drawn anew. -/
theorem Since.shownOn_eq {v u : Viewer} {newer : List Entry} (h : Since v newer u) {width height : Nat}
    (hpaused : v.state.following = false)
    (hfull : v.state.scroll + v.rowsOn width height ≤ v.log.visibleCount)
    (hlast : ∀ e ∈ (v.shownOn width height).getLast?, e ∈ u.log.entries)
    (hsize : u.log.entries.length ≤ ViewerState.furthestScroll) :
    (u.render width height).2.shownOn width height = v.shownOn width height := by
  have hstill : u.state.following = false := by rw [h.state]; exact hpaused
  rw [shownOn_render, scroll_render, h.rowsOn_eq, hstill, shownOn, window]
  unfold shownOn at hlast
  generalize v.rowsOn width height = rows at hfull hlast ⊢
  rcases Nat.eq_zero_or_pos rows with rfl | hrows
  · rw [List.take_zero, List.take_zero]
  · have hthere := h.take_visible hrows hfull hlast
    have hcount : (newer.filter (·.visible)).length + (v.state.scroll + rows) ≤ u.log.visibleCount := by
      have hlength := hthere.length_le
      rwa [List.length_append, List.length_take_of_le hfull] at hlength
    have hshort : u.log.visibleCount ≤ u.log.entries.length := List.length_filter_le _ _
    have hscroll := h.scroll (by omega)
    -- Enough is left below for the scroll position to stay.
    have hsettled : min u.state.scroll (u.log.visibleCount - rows)
        = (newer.filter (·.visible)).length + v.state.scroll := by
      rw [hscroll]
      omega
    rw [if_neg Bool.false_ne_true, hsettled]
    exact take_drop_of_isPrefix hthere hfull

/-! ## 6. Every view -/

/-- **A paused table stays anchored.**

    The log of the viewer comes from any run of a view, under any cap that a word can hold; the rest of it is
    anything. Once it has been drawn, its table is not scrolled further down than to its last row, so it
    has as many rows as there are visible entries for. Suppose that it does not follow, and that as many
    visible entries are left from its first row on as the table is high. Then whatever frames arrive, if the
    entry in the last row is still buffered, the table shows the same entries in the same order when it
    is drawn again on a screen of that size. -/
theorem paused_table_stays (w : Viewer) (cap : Nat) (cs : List Change) (hcap : cap ≤ maxWord)
    (hlog : w.log = (LogView.new cap).run cs) (width height : Nat) :
    let v := (w.render width height).2
    let rows := v.rowsOn width height
    (v.state.scroll ≤ v.log.visibleCount - rows ∧
      (v.shownOn width height).length = min rows v.log.visibleCount) ∧
    ∀ frames : List (Duration × String),
      let u := ((v.live (arriving frames)).render width height).2
      v.state.following = false → v.state.scroll + rows ≤ v.log.visibleCount →
      (∀ e ∈ (v.shownOn width height).getLast?, e ∈ u.log.entries) →
      u.shownOn width height = v.shownOn width height := by
  intro v rows
  have hsettled : v.state.scroll ≤ v.log.visibleCount - rows := by
    rw [scroll_render]
    split
    · exact Nat.zero_le _
    · exact Nat.min_le_right _ _
  refine ⟨⟨hsettled, ?_⟩, ?_⟩
  · have hcount : v.log.visibleCount = v.log.visible.length := rfl
    rw [shownOn, window, List.length_take, List.length_drop, ← hcount]
    omega
  · intro frames u hpaused hfull hlast
    have hnumbered : v.log.Numbered cap := hlog ▸ LogView.numbered_run cap cs
    obtain ⟨newer, hsince⟩ := (Since.refl hnumbered).frames hnumbered.cap_pos hpaused frames
    -- What frames make of the log, a run under the same cap makes of an empty one.
    have hrun : (v.live (arriving frames)).log
        = (LogView.new cap).run (cs ++ v.allChanges (arriving frames)) := by
      calc (v.live (arriving frames)).log
          = w.log.run (v.allChanges (arriving frames)) := log_live v (arriving frames)
        _ = ((LogView.new cap).run cs).run (v.allChanges (arriving frames)) := by rw [hlog]
        _ = (LogView.new cap).run (cs ++ v.allChanges (arriving frames)) := List.foldl_append.symm
    have hsize : (v.live (arriving frames)).log.entries.length ≤ max cap 1 := by
      rw [hrun]
      exact (LogView.numbered_run cap _).size_le
    exact hsince.shownOn_eq hpaused hfull hlast (hsize.trans (Nat.max_le.mpr ⟨hcap, by decide⟩))

/-- Under a cap of six a visible record enters, and then a hidden one, which evicts a visible one. Of the
    four visible entries the last two are in the table, and it stays on them. -/
theorem paused_table_stays_evicting :
    let info (message : String) : Record := { timestamp := "", level := "INFO", message }
    let debug (message : String) : Record := { timestamp := "", level := "DEBUG", message }
    let changes : List Change := [.filter { level := some "INFO" }, .ingest (info "a"), .ingest (info "b"),
      .ingest (info "c"), .ingest (debug "d"), .ingest (info "e")]
    let state : ViewerState := { server := "", level := some "INFO", scroll := 1, following := false }
    let w : Viewer := { settings := {}, state, log := (LogView.new 6).run changes }
    let frames : List (Duration × String) := [
      (⟨0⟩, "\x7b\"type\":\"log_update\",\"level\":\"INFO\",\"message\":\"f\"\x7d"),
      (⟨1⟩, "\x7b\"type\":\"log_update\",\"level\":\"DEBUG\",\"message\":\"g\"\x7d")]
    let v := (w.render 80 11).2
    let u := ((v.live (arriving frames)).render 80 11).2
    (v.shownOn 80 11).map (·.id) = [2, 1] ∧ v.state.scroll = 1 ∧ u.shownOn 80 11 = v.shownOn 80 11 ∧
      u.state.scroll = 2 ∧ u.log.entries.map (·.id) = [6, 5, 4, 3, 2, 1] := by
  intro info debug changes state w frames v u
  have hfirst : Frame.read? "\x7b\"type\":\"log_update\",\"level\":\"INFO\",\"message\":\"f\"\x7d"
      = some (.log (info "f")) := by cbv
  have hsecond : Frame.read? "\x7b\"type\":\"log_update\",\"level\":\"DEBUG\",\"message\":\"g\"\x7d"
      = some (.log (debug "g")) := by cbv
  have hlive : (w.render 80 11).2.live (arriving frames)
      = ((w.render 80 11).2.takeRecord (info "f")).takeRecord (debug "g") := by
    rw [live_arriving_cons, handleFrame_of_log hfirst, live_arriving_cons, handleFrame_of_log hsecond,
      live_arriving_nil]
  have hu : u = ((((w.render 80 11).2.takeRecord (info "f")).takeRecord (debug "g")).render 80 11).2 :=
    congrArg (fun x => (x.render 80 11).2) hlive
  have hfull : v.state.scroll + v.rowsOn 80 11 ≤ v.log.visibleCount := by decide +kernel
  have hstays : u.shownOn 80 11 = v.shownOn 80 11 := by
    refine (paused_table_stays w 6 changes (by decide) rfl 80 11).2 frames rfl hfull ?_
    rw [hlive]
    decide +kernel
  have hscroll : u.state.scroll = 2 := by
    rw [hu]
    decide +kernel
  have hentries : u.log.entries.map (·.id) = [6, 5, 4, 3, 2, 1] := by
    rw [hu]
    decide +kernel
  exact ⟨by decide +kernel, by decide +kernel, hstays, hscroll, hentries⟩

end Viewer
end LiveLog
