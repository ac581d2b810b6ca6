import LiveLog.Proofs.View.History
import LiveLog.Proofs.Viewer.Stimulus

/-!
# The filter that is chosen and the filter in force

The viewer keeps its filter twice: as choices, which the filter bar displays and the user changes one at a
time, and as the filter of the log, by which every entry was marked. Nothing but the order of some
assignments keeps the two in step, so this file shows that they are (`Agrees`), for every stimulus and
thereby for every run.

A filter made of choices is not quite the choices. On the way the level loses its blanks and becomes
capitals, and the word `all` becomes no level. None of this shows, because the levels that can be chosen
are in capitals already and none of them is `all` (`levelOf_of_mem`), and choosing leads to no others
(`mem_of_nextLevel`). That is why the invariant speaks of the level as well.
-/

namespace LiveLog

/-! ## 1. What is chosen -/

namespace ViewerState

/-- **The choices as a filter**, each criterion as the filter bar displays it. -/
def chosen (s : ViewerState) : Filter :=
  { search := s.appliedSearch, level := s.level, category := s.category }

/-- **Whether a record satisfies what is chosen**: the search in effect occurs in its message, and its level
    and its category are the chosen ones, as far as there are any. -/
def admits (s : ViewerState) (r : Record) : Bool :=
  (s.appliedSearch.isEmpty || Search.occurs s.appliedSearch.toList r.message.toList) &&
    s.level.all (Filter.sameAscii r.level) && s.category.all (r.category == ·)

theorem levelOf_of_mem {level : String} (h : level ∈ levelChoices) : Filter.levelOf level = some level := by
  simp only [levelChoices, List.mem_cons, List.not_mem_nil, or_false] at h
  rcases h with rfl | rfl | rfl | rfl <;> decide

theorem mem_of_nextLevel {before : Option String} {level : String} (h : nextLevel before = some level) :
    level ∈ levelChoices := by
  cases before with
  | none => exact List.mem_of_mem_head? h
  | some l => exact (List.dropWhile_sublist _).mem (List.mem_of_getElem? h)

/-- The filter that the choices amount to has each of them unchanged. -/
theorem filter_eq_chosen {s : ViewerState} (h : ∀ level ∈ s.level, level ∈ levelChoices) :
    s.filter = s.chosen := by
  have hlevel : s.level.bind Filter.levelOf = s.level := by
    cases hs : s.level with
    | none => rfl
    | some level => rw [Option.bind_some, levelOf_of_mem (h level hs)]
  have hfilter : s.filter
      = { search := s.appliedSearch, level := s.level.bind Filter.levelOf, category := s.category } := rfl
  rw [hfilter, hlevel, chosen]

theorem isEmpty_chosen (s : ViewerState) : s.chosen.isEmpty = !s.hasFilter := by
  rw [Filter.isEmpty, hasFilter, chosen]
  cases s.appliedSearch.isEmpty <;> cases s.level <;> cases s.category <;> rfl

theorem passes_chosen (s : ViewerState) : s.chosen.passes = s.admits := by
  funext r
  rw [Filter.passes, admits, Filter.levelPasses, Filter.categoryPasses, Filter.searchPasses]
  dsimp only [chosen]
  cases s.level <;> cases s.category <;> simp [Bool.and_comm, Bool.and_assoc]

theorem chosen_confirmClear (s : ViewerState) (now : Duration) :
    (s.confirmClear now).2.chosen = s.chosen := by
  unfold confirmClear
  dsimp only
  split <;> rfl

end ViewerState

/-! ## 2. What a stimulus does to the choices -/

namespace Viewer

/-- What a stimulus makes of the choices. -/
def chosenAfter (s : ViewerState) : Stimulus → Filter
  | .action .applyFilter => { s.chosen with search := s.searchInput }
  | .action .clearFilter => {}
  | .action .cycleLevelFilter => { s.chosen with level := ViewerState.nextLevel s.level }
  | .action .cycleCategoryFilter => { s.chosen with category := Category.next s.category }
  | _ => s.chosen

theorem chosenAfter_of_not_action {s : Stimulus} (hs : s.action? = none) (v : ViewerState) :
    chosenAfter v s = v.chosen := by
  cases s with
  | action a => exact absurd hs (by simp [Stimulus.action?])
  | _ => rfl

theorem chosen_handleAction (v : Viewer) (now : Duration) (a : Action) :
    (v.handleAction now a).1.state.chosen = chosenAfter v.state (.action a) := by
  cases a with
  | dismiss =>
    unfold handleAction
    dsimp only
    split <;> split <;> rfl
  | clearServerLogs => exact v.state.touch.chosen_confirmClear now
  | _ => rfl

/-- **A stimulus changes the choices as listed.** -/
theorem chosen_react (v : Viewer) (now : Duration) (s : Stimulus) :
    (v.react now s).1.state.chosen = chosenAfter v.state s := by
  cases hs : s.action? with
  | none =>
    obtain ⟨_, _, _, _, _, hstate⟩ := state_react_of_not_action hs v now
    rw [hstate, chosenAfter_of_not_action hs]
    rfl
  | some a =>
    obtain rfl := Stimulus.eq_action hs
    exact chosen_handleAction v now a

end Viewer

/-! ## 3. What is in force -/

namespace LogView

theorem filter_foldl_ingest (v : LogView) (records : List Record) :
    (records.foldl ingest v).filter = v.filter := by
  induction records generalizing v with
  | nil => rfl
  | cons r rest ih => exact ih (v.ingest r)

/-- A snapshot comes in under the filter in force. -/
theorem filter_replaceWith (v : LogView) (records : List Record) :
    (v.replaceWith records).filter = v.filter := filter_foldl_ingest v.clear records.reverse

/-- **What is shown of a view is what its filter passes**, after any run. -/
theorem visibleRecords_run (cap : Nat) (cs : List Change) :
    let v := (LogView.new cap).run cs
    v.visibleRecords = (v.entries.map (·.record)).filter v.filter.passes := by
  intro v
  have htracks : Tracks cap (edits cs) v := by
    have hrun := tracks_editAll cap (edits cs)
    rw [← run_eq_editAll] at hrun
    exact hrun
  rw [visibleRecords, visible, htracks.entries_eq, htracks.filter_eq, map_record_filter_visible,
    List.map_map]
  rfl

end LogView

namespace Viewer

/-- **The two filters agree**: the one in force is the one that is chosen, and its level can be chosen. -/
structure Agrees (v : Viewer) : Prop where
  filter : v.log.filter = v.state.chosen
  level : ∀ level ∈ v.state.level, level ∈ ViewerState.levelChoices

namespace Agrees

variable {v : Viewer}

theorem new (settings : Settings) : Agrees (Viewer.new settings) where
  filter := rfl
  level := fun _ h => absurd h (by simp [Viewer.new, ViewerState.new])

theorem level_react (h : Agrees v) (now : Duration) (s : Stimulus) :
    ∀ level ∈ (v.react now s).1.state.level, level ∈ ViewerState.levelChoices := by
  have hlevel : (v.react now s).1.state.level = (chosenAfter v.state s).level :=
    congrArg Filter.level (v.chosen_react now s)
  rw [hlevel]
  unfold chosenAfter
  split
  case h_2 => exact fun _ hnone => absurd hnone (by simp)
  case h_3 => exact fun _ hnext => ViewerState.mem_of_nextLevel hnext
  case h_1 | h_4 | h_5 => exact h.level

theorem filter_react (h : Agrees v) (now : Duration) (s : Stimulus) :
    (v.react now s).1.log.filter = chosenAfter v.state s := by
  rw [log_react]
  cases s with
  | transport event =>
    cases event with
    | frame text =>
      -- Whatever is pushed enters under the filter that is in force.
      show (v.log.run (v.changes (.transport (.frame text)))).filter = v.state.chosen
      rw [← h.filter, changes]
      split <;> rfl
    | stateChanged | reconnectScheduled => exact h.filter
  | finished how =>
    cases how with
    | logsLoaded records => exact (v.log.filter_replaceWith records).trans h.filter
    | statsLoaded | serverCleared | downloaded | failed => exact h.filter
  | action a =>
    cases a with
    | applyFilter => exact ViewerState.filter_eq_chosen (s := v.state.acceptSearch) h.level
    | clearFilter =>
      refine ViewerState.filter_eq_chosen (s := v.state.clearFilter) ?_
      intro level hnone
      exact absurd hnone (by simp [ViewerState.clearFilter])
    | cycleLevelFilter =>
      refine ViewerState.filter_eq_chosen (s := v.state.cycleLevel) ?_
      intro level hnext
      exact ViewerState.mem_of_nextLevel hnext
    | cycleCategoryFilter => exact ViewerState.filter_eq_chosen (s := v.state.cycleCategory) h.level
    | _ => exact h.filter
  | tick | draw | jobsRan => exact h.filter

theorem react (h : Agrees v) (now : Duration) (s : Stimulus) : Agrees (v.react now s).1 where
  filter := (h.filter_react now s).trans (v.chosen_react now s).symm
  level := h.level_react now s

theorem live (h : Agrees v) (run : List (Duration × Stimulus)) : Agrees (v.live run) := by
  induction run generalizing v with
  | nil => exact h
  | cons x rest ih => exact ih (h.react x.1 x.2)

end Agrees

/-! ## 4. Every run -/

/-- **The filter bar tells the truth**, after every run of the viewer.

    The filter in force is the one that the choices amount to, and that is each choice as it is displayed.
    Something is chosen exactly if the filter in force is not empty. So the records shown are those
    among the buffered ones that satisfy what is chosen, in their order. While a search is typed the bar
    displays the text being typed, which is not chosen yet. -/
theorem filter_in_force_is_chosen (settings : Settings) (run : List (Duration × Stimulus)) :
    let v := (Viewer.new settings).live run
    v.log.filter = v.state.filter ∧
    v.log.filter = { search := v.state.appliedSearch, level := v.state.level, category := v.state.category } ∧
    (v.state.hasFilter = true ↔ v.log.filter.isEmpty = false) ∧
    v.log.visibleRecords = (v.log.entries.map (·.record)).filter v.state.admits := by
  intro v
  have hagrees : Agrees v := (Agrees.new settings).live run
  refine ⟨?_, hagrees.filter, ?_, ?_⟩
  · rw [hagrees.filter, ViewerState.filter_eq_chosen hagrees.level]
  · rw [hagrees.filter, ViewerState.isEmpty_chosen, Bool.not_eq_false']
  · have hlog : v.log = (LogView.new settings.displayCap).run ((Viewer.new settings).allChanges run) :=
      log_live _ run
    rw [← ViewerState.passes_chosen, ← hagrees.filter, hlog]
    exact LogView.visibleRecords_run settings.displayCap _

end Viewer
end LiveLog
