import LiveLog.Proofs.Viewer.Filtering

/-!
# Typing a search

There are three texts in a search: the one being typed, the one in effect, and the one in the filter of the
log. While a search is typed only the first of them changes, whatever arrives from the server meanwhile, and
what ends the typing decides whether the other two follow it or it is dropped. So a search is changed as a
whole or not at all.

The invariant (`Typing`) says what the text being typed is, and that the choices are those from before. It
does not speak of the filter in force. That one agrees with the choices in every state that a viewer
comes to (`Agrees`), so it stays when they stay, and pushed records and snapshots need no second look.

Typing is kept apart from everything else that keys do by the keys themselves. As long as a search is
typed, no key means anything but an edit or an end of the typing (`isOfSearch_of_searchAction?`), and what
a key writes is exactly its character, unless something other than shift is held with it
(`searchAction?_eq_searchInput_iff`).
-/

namespace LiveLog

/-! ## 1. Keys -/

/-- Whether an action edits the text being typed, or ends the typing. -/
def Action.isOfSearch : Action → Bool
  | .searchInput _ => true
  | .searchBackspace => true
  | .searchClear => true
  | .closeSearch => true
  | .applyFilter => true
  | _ => false

namespace KeyPress

variable {k : KeyPress}

theorem written?_eq_some_iff {c : Char} :
    k.written? = some c ↔ k.code = .char c ∧ (k.modifiers = {} ∨ k.modifiers = { shift := true }) := by
  obtain ⟨code, modifiers⟩ := k
  cases code with
  | char d =>
    simp only [written?, Bool.or_eq_true, decide_eq_true_eq]
    split
    case isTrue hplain => simp [hplain]
    case isFalse hheld => simp [hheld]
  | _ => simp [written?]

/-- No key that writes a character has another meaning in a search. -/
theorem lookup_of_written {c : Char} (h : k.written? = some c) :
    KeyContext.searchLine.bindings.lookup k = none := by
  have hbound : ∀ binding ∈ KeyContext.searchLine.bindings, binding.1.written? = none := by decide
  rw [List.lookup_eq_none_iff]
  intro binding hbinding
  rw [bne_iff_ne]
  intro heq
  have hnone := hbound binding hbinding
  rw [← heq, h] at hnone
  exact absurd hnone (by simp)

theorem mem_of_lookup {a : Action} (h : KeyContext.searchLine.bindings.lookup k = some a) :
    (k, a) ∈ KeyContext.searchLine.bindings := by
  obtain ⟨before, after, hsplit, -⟩ := List.lookup_eq_some_iff.mp h
  rw [hsplit]
  exact List.mem_append_right before List.mem_cons_self

theorem searchAction?_eq_some_iff {a : Action} :
    k.searchAction? = some a ↔
      KeyContext.searchLine.bindings.lookup k = some a ∨ ∃ c, k.written? = some c ∧ a = .searchInput c := by
  rw [searchAction?, Option.or_eq_some_iff]
  constructor
  · rintro (hbound | ⟨-, hwritten⟩)
    · exact Or.inl hbound
    · obtain ⟨c, hc, rfl⟩ := Option.map_eq_some_iff.mp hwritten
      exact Or.inr ⟨c, hc, rfl⟩
  · rintro (hbound | ⟨c, hc, rfl⟩)
    · exact Or.inl hbound
    · exact Or.inr ⟨lookup_of_written hc, by rw [hc]; rfl⟩

/-- **No key does anything but edit or end a search** while one is typed. -/
theorem isOfSearch_of_searchAction? {a : Action} (h : k.searchAction? = some a) : a.isOfSearch = true := by
  have hbound : ∀ binding ∈ KeyContext.searchLine.bindings, binding.2.isOfSearch = true := by decide
  rcases searchAction?_eq_some_iff.mp h with hlookup | ⟨c, -, rfl⟩
  · exact hbound _ (mem_of_lookup hlookup)
  · rfl

theorem searchAction?_eq_searchInput_iff {c : Char} :
    k.searchAction? = some (.searchInput c) ↔
      k.code = .char c ∧ (k.modifiers = {} ∨ k.modifiers = { shift := true }) := by
  have hbound : ∀ binding ∈ KeyContext.searchLine.bindings, binding.2 ∈
      [.applyFilter, .closeSearch, .searchBackspace, .searchClear] := by decide
  rw [← written?_eq_some_iff, searchAction?_eq_some_iff]
  constructor
  · rintro (hlookup | ⟨d, hd, hc⟩)
    · exact absurd (hbound _ (mem_of_lookup hlookup)) (by simp)
    · rw [hd, Action.searchInput.inj hc]
  · intro hc
    exact Or.inr ⟨c, hc, rfl⟩

end KeyPress

/-! ## 2. Edits -/

/-- What an action makes of the text being typed, if it edits it: a character is appended, the last one is
    removed, or all are. -/
def Action.edit? : Action → Option (List Char → List Char)
  | .searchInput c => some (· ++ [c])
  | .searchBackspace => some List.dropLast
  | .searchClear => some fun _ => []
  | _ => none

/-- What a stimulus makes of the text being typed. -/
def Stimulus.edit? (s : Stimulus) : Option (List Char → List Char) := s.action?.bind Action.edit?

/-- Whether a stimulus leaves a search being typed: it edits the text, or it is no action. -/
def Stimulus.keepsTyping (s : Stimulus) : Bool := s.action?.all (·.edit?.isSome)

/-- **A text after the edits of a run**, in their order. -/
def typed (text : List Char) (run : List (Duration × Stimulus)) : List Char :=
  (run.filterMap (·.2.edit?)).foldl (fun text edit => edit text) text

theorem typed_cons (text : List Char) (x : Duration × Stimulus) (rest : List (Duration × Stimulus)) :
    typed text (x :: rest) = typed ((x.2.edit?.map (· text)).getD text) rest := by
  unfold typed
  rw [List.filterMap_cons]
  cases x.2.edit? <;> rfl

namespace Viewer

/-! ## 3. While a search is typed -/

/-- **A viewer `w` in which a text is being typed**, and nothing else was chosen since a viewer `v`. -/
structure Typing (v : Viewer) (text : List Char) (w : Viewer) : Prop where
  searching : w.state.searching = true
  input : w.state.searchInput.toList = text
  chosen : w.state.chosen = v.state.chosen

namespace Typing

variable {v w : Viewer} {text : List Char}

theorem openSearch (v : Viewer) (now : Duration) :
    Typing v v.state.appliedSearch.toList (v.handleAction now .openSearch).1 where
  searching := rfl
  input := rfl
  chosen := rfl

/-- What is no action leaves the text alone. -/
theorem react_of_not_action (h : Typing v text w) {s : Stimulus} (hs : s.action? = none) (now : Duration) :
    Typing v text (w.react now s).1 := by
  obtain ⟨_, _, _, _, _, hstate⟩ := state_react_of_not_action hs w now
  constructor
  case searching =>
    rw [hstate]
    exact h.searching
  case input =>
    rw [hstate]
    exact h.input
  case chosen =>
    rw [hstate]
    exact h.chosen

theorem edit (h : Typing v text w) {a : Action} {edit : List Char → List Char} (ha : a.edit? = some edit)
    (now : Duration) : Typing v (edit text) (w.handleAction now a).1 := by
  cases a with
  | searchInput c =>
    obtain rfl := Option.some.inj ha
    refine ⟨h.searching, ?_, h.chosen⟩
    show (w.state.searchInput.push c).toList = text ++ [c]
    rw [String.toList_push, h.input]
  | searchBackspace =>
    obtain rfl := Option.some.inj ha
    refine ⟨h.searching, ?_, h.chosen⟩
    show (String.ofList w.state.searchInput.toList.dropLast).toList = text.dropLast
    rw [String.toList_ofList, h.input]
  | searchClear =>
    obtain rfl := Option.some.inj ha
    exact ⟨h.searching, rfl, h.chosen⟩
  | _ => cases ha

theorem react (h : Typing v text w) {s : Stimulus} (hs : s.keepsTyping = true) (now : Duration) :
    Typing v ((s.edit?.map (· text)).getD text) (w.react now s).1 := by
  cases haction : s.action? with
  | none =>
    have hedit : s.edit? = none := by rw [Stimulus.edit?, haction, Option.bind_none]
    rw [hedit]
    exact h.react_of_not_action haction now
  | some a =>
    rw [Stimulus.keepsTyping, haction, Option.all_some, Option.isSome_iff_exists] at hs
    obtain ⟨edit, ha⟩ := hs
    have hedit : s.edit? = some edit := by rw [Stimulus.edit?, haction, Option.bind_some, ha]
    obtain rfl := Stimulus.eq_action haction
    rw [hedit]
    exact h.edit ha now

theorem live (h : Typing v text w) {run : List (Duration × Stimulus)}
    (hrun : ∀ x ∈ run, x.2.keepsTyping = true) : Typing v (typed text run) (w.live run) := by
  induction run generalizing text w with
  | nil => exact h
  | cons x rest ih =>
    rw [typed_cons, live_cons]
    refine ih (h.react (hrun x List.mem_cons_self) x.1) ?_
    intro y hy
    exact hrun y (List.mem_cons_of_mem x hy)

end Typing

/-! ## 4. What ends the typing -/

/-- **Nothing that is chosen or in force differs** between two viewers. -/
structure SameFilters (v w : Viewer) : Prop where
  appliedSearch : w.state.appliedSearch = v.state.appliedSearch
  level : w.state.level = v.state.level
  category : w.state.category = v.state.category
  inForce : w.log.filter = v.log.filter

theorem sameFilters_of_chosen {v w : Viewer} (hv : Agrees v) (hw : Agrees w)
    (h : w.state.chosen = v.state.chosen) : SameFilters v w where
  appliedSearch := congrArg Filter.search h
  level := congrArg Filter.level h
  category := congrArg Filter.category h
  inForce := by rw [hw.filter, hv.filter, h]

/-- **A search is changed as a whole or not at all.**

    From any state that a viewer comes to, let a search be opened and typed, with anything that is no action
    of the user in between, and for as long as one likes. Then the search in effect, the chosen level and
    category, and the filter in force stay what they were. They still are what they were after the search is
    closed, and nothing is left of the text. After it is applied the search in effect is the one from
    before with every edit made in its order; the filter in force has that search, and the level and category
    that it had. All the while no key means anything but one of the five actions of a search, and a key
    means a character exactly if it is that character with nothing or only shift held. -/
theorem typing_is_transactional (settings : Settings) (run : List (Duration × Stimulus))
    (opened ended : Duration) {typing : List (Duration × Stimulus)}
    (htyping : ∀ x ∈ typing, x.2.keepsTyping = true) :
    let v := (Viewer.new settings).live run
    let w := v.live ((opened, .action .openSearch) :: typing)
    let text := String.ofList (typed v.state.appliedSearch.toList typing)
    let closed := (w.handleAction ended .closeSearch).1
    let applied := (w.handleAction ended .applyFilter).1
    SameFilters v w ∧
    (SameFilters v closed ∧ closed.state.searchInput = "" ∧ closed.state.searching = false) ∧
    (applied.state.appliedSearch = text ∧ applied.state.level = v.state.level ∧
      applied.state.category = v.state.category ∧ applied.log.filter = { v.log.filter with search := text } ∧
      applied.state.searching = false) ∧
    ∀ k, w.keyAction? k = k.searchAction? ∧
      (∀ a, k.searchAction? = some a → (∃ c, a = .searchInput c) ∨ a = .searchBackspace ∨
        a = .searchClear ∨ a = .closeSearch ∨ a = .applyFilter) ∧
      ∀ c, k.searchAction? = some (.searchInput c) ↔
        k.code = .char c ∧ (k.modifiers = {} ∨ k.modifiers = { shift := true }) := by
  intro v w text closed applied
  have hv : Agrees v := (Agrees.new settings).live run
  have hw : Agrees w := hv.live _
  have htyped : Typing v (typed v.state.appliedSearch.toList typing) w := by
    rw [show w = (v.handleAction opened .openSearch).1.live typing from rfl]
    exact (Typing.openSearch v opened).live htyping
  have hinput : w.state.searchInput = text := by
    show w.state.searchInput = String.ofList _
    rw [← htyped.input, String.ofList_toList]
  refine ⟨sameFilters_of_chosen hv hw htyped.chosen, ?_, ?_, ?_⟩
  · refine ⟨sameFilters_of_chosen hv (hw.react ended (.action .closeSearch)) ?_, rfl, rfl⟩
    exact (w.chosen_react ended (.action .closeSearch)).trans htyped.chosen
  · -- What is chosen after the end is what was chosen before, with the text as its search.
    have hchosen : applied.state.chosen = { v.state.chosen with search := text } := by
      rw [show applied.state.chosen = chosenAfter w.state (.action .applyFilter) from
        w.chosen_react ended (.action .applyFilter), chosenAfter, htyped.chosen, hinput]
    have happlied : applied.log.filter = applied.state.chosen :=
      (hw.react ended (.action .applyFilter)).filter
    refine ⟨congrArg Filter.search hchosen, congrArg Filter.level hchosen,
      congrArg Filter.category hchosen, ?_, rfl⟩
    rw [happlied, hchosen, hv.filter]
  · intro k
    refine ⟨if_pos htyped.searching, ?_, ?_⟩
    · intro a ha
      have hsearch := KeyPress.isOfSearch_of_searchAction? ha
      cases a with
      | searchInput c => exact Or.inl ⟨c, rfl⟩
      | searchBackspace | searchClear | closeSearch | applyFilter => simp
      | _ => cases hsearch
    · intro c
      exact KeyPress.searchAction?_eq_searchInput_iff

/-- The search `ab` is edited to `aé` while a record is pushed and a snapshot comes in. -/
theorem typing_is_transactional_interrupted :
    let act (ms : Nat) (a : Action) : Duration × Stimulus := (.ofMillis ms, .action a)
    let record : Record := { timestamp := "", level := "ERROR", message := "ab" }
    let run := [act 0 .openSearch, act 1 (.searchInput 'a'), act 2 (.searchInput 'b'), act 3 .applyFilter,
      act 4 .cycleLevelFilter]
    let typing := [act 6 (.searchInput 'c'),
      (.ofMillis 7, .transport (.frame "\x7b\"type\":\"log_update\",\"level\":\"\",\"message\":\"\"\x7d")),
      act 8 .searchBackspace, (.ofMillis 9, .finished (.logsLoaded [record])), act 10 .searchBackspace,
      act 11 (.searchInput 'é')]
    let v := (Viewer.new {}).live run
    let w := v.live (act 5 .openSearch :: typing)
    (∀ x ∈ typing, x.2.keepsTyping = true) ∧
    w.log.filter = { search := "ab", level := some "DEBUG" } ∧
    (w.handleAction (.ofMillis 12) .closeSearch).1.log.filter = { search := "ab", level := some "DEBUG" } ∧
    (w.handleAction (.ofMillis 12) .applyFilter).1.log.filter = { search := "aé", level := some "DEBUG" } := by
  intro act record run typing v w
  have htyping : ∀ x ∈ typing, x.2.keepsTyping = true := by decide
  have hfilter : v.log.filter = { search := "ab", level := some "DEBUG" } := by decide
  obtain ⟨hsame, ⟨hclosed, -, -⟩, ⟨-, -, -, happlied, -⟩, -⟩ :=
    typing_is_transactional {} run (.ofMillis 5) (.ofMillis 12) htyping
  refine ⟨htyping, hsame.inForce.trans hfilter, hclosed.inForce.trans hfilter, ?_⟩
  rw [happlied]
  show ({ v.log.filter with search := _ } : Filter) = _
  rw [hfilter]
  decide

end Viewer
end LiveLog
