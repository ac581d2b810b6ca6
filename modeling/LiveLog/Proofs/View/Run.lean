import LiveLog.View.Buffer
import Mathlib.Data.List.DropRight
import Mathlib.Data.List.Induction

/-!
# Runs of a view

A view changes in five ways, and a run is any list of changes. One of the five is not a change of its own
kind: a snapshot that takes the place of the entries clears the view and then lets its records enter one
by one, the last one first. So a run is also a list of **edits**, of which there are four kinds, and
`run_eq_editAll` says that both readings give the same view.

What is said about a run is said about its edits, because there the records stand in the order in
which they entered, those of snapshots among them, and the last clear is a place in the list.
-/

namespace LiveLog

/-! ## 1. Changes and edits -/

/-- **A change of a view.** -/
inductive Change where
  | ingest (r : Record)
  | stats (s : Stats)
  | filter (f : Filter)
  /-- A snapshot takes the place of entries and counts. -/
  | replace (records : List Record)
  | clear
deriving DecidableEq, Repr

/-- What changes are made of. -/
inductive Edit where
  | ingest (r : Record)
  | stats (s : Stats)
  | filter (f : Filter)
  | clear
deriving DecidableEq, Repr

namespace Change

/-- The edits of a change, in their order. -/
def edits : Change → List Edit
  | .ingest r => [.ingest r]
  | .stats s => [.stats s]
  | .filter f => [.filter f]
  | .replace records => .clear :: records.reverse.map .ingest
  | .clear => [.clear]

/-- Whether the change sets the filter. -/
def isFilter : Change → Bool
  | .filter _ => true
  | _ => false

end Change

/-- The edits of a run. -/
def edits (cs : List Change) : List Edit := cs.flatMap Change.edits

namespace Edit

/-- The record that enters. -/
def record? : Edit → Option Record
  | .ingest r => some r
  | _ => none

/-- The statistics that are taken in. -/
def stats? : Edit → Option Stats
  | .stats s => some s
  | _ => none

/-- The filter that is set. -/
def filter? : Edit → Option Filter
  | .filter f => some f
  | _ => none

/-- Whether entries and counts go. -/
def isClear : Edit → Bool
  | .clear => true
  | _ => false

end Edit

namespace LogView

/-- The view after a change. -/
def change (v : LogView) : Change → LogView
  | .ingest r => v.ingest r
  | .stats s => v.ingestStats s
  | .filter f => v.setFilter f
  | .replace records => v.replaceWith records
  | .clear => v.clear

/-- **The view after a run.** -/
def run (v : LogView) (cs : List Change) : LogView := cs.foldl change v

/-- The view after an edit. -/
def edit (v : LogView) : Edit → LogView
  | .ingest r => v.ingest r
  | .stats s => v.ingestStats s
  | .filter f => v.setFilter f
  | .clear => v.clear

/-- The view after some edits. -/
def editAll (v : LogView) (es : List Edit) : LogView := es.foldl edit v

@[simp] theorem editAll_nil (v : LogView) : v.editAll [] = v := rfl

@[simp] theorem editAll_cons (v : LogView) (e : Edit) (es : List Edit) :
    v.editAll (e :: es) = (v.edit e).editAll es := rfl

theorem editAll_append (v : LogView) (es fs : List Edit) : v.editAll (es ++ fs) = (v.editAll es).editAll fs :=
  List.foldl_append

/-- Records that enter one after another are edits of their own. -/
theorem editAll_map_ingest (v : LogView) (records : List Record) :
    v.editAll (records.map .ingest) = records.foldl ingest v := by
  induction records generalizing v with
  | nil => rfl
  | cons r rest ih => exact ih (v.ingest r)

/-- A change does what its edits do. -/
theorem change_eq_editAll (v : LogView) (c : Change) : v.change c = v.editAll c.edits := by
  cases c with
  | ingest r => rfl
  | stats s => rfl
  | filter f => rfl
  | clear => rfl
  | replace records => exact (editAll_map_ingest v.clear records.reverse).symm

/-- **A run does what its edits do.** -/
theorem run_eq_editAll (v : LogView) (cs : List Change) : v.run cs = v.editAll (edits cs) := by
  induction cs generalizing v with
  | nil => rfl
  | cons c rest ih =>
    have hedits : edits (c :: rest) = c.edits ++ edits rest := List.flatMap_cons
    rw [hedits, editAll_append, ← change_eq_editAll]
    exact ih (v.change c)

end LogView

/-! ## 2. What edits tell

Everything below is read off a list of edits without a view. -/

/-- **The records that entered**, in the order in which they did. The number of a record is its place
    here. -/
def arrivals (es : List Edit) : List Record := es.filterMap Edit.record?

/-- The edits since the last clear. -/
def sinceClear (es : List Edit) : List Edit := es.rtakeWhile fun e => !e.isClear

/-- The edits up to the last clear, that one among them. -/
def untilClear (es : List Edit) : List Edit := es.rdropWhile fun e => !e.isClear

/-- The filter that was set last. -/
def lastFilter (es : List Edit) : Filter := ((es.filterMap Edit.filter?).getLast?).getD {}

theorem arrivals_append (es fs : List Edit) : arrivals (es ++ fs) = arrivals es ++ arrivals fs :=
  List.filterMap_append

theorem untilClear_append_sinceClear (es : List Edit) : untilClear es ++ sinceClear es = es :=
  List.rdropWhile_append_rtakeWhile

@[simp] theorem sinceClear_concat_clear (es : List Edit) : sinceClear (es ++ [.clear]) = [] :=
  List.rtakeWhile_concat_neg _ _ _ (by simp [Edit.isClear])

@[simp] theorem untilClear_concat_clear (es : List Edit) : untilClear (es ++ [.clear]) = es ++ [.clear] :=
  List.rdropWhile_concat_neg _ _ _ (by simp [Edit.isClear])

theorem sinceClear_concat {e : Edit} (es : List Edit) (he : e.isClear = false) :
    sinceClear (es ++ [e]) = sinceClear es ++ [e] :=
  List.rtakeWhile_concat_pos _ _ _ (by simp [he])

theorem untilClear_concat {e : Edit} (es : List Edit) (he : e.isClear = false) :
    untilClear (es ++ [e]) = untilClear es :=
  List.rdropWhile_concat_pos _ _ _ (by simp [he])

theorem lastFilter_concat_filter (es : List Edit) (f : Filter) :
    lastFilter (es ++ [.filter f]) = f := by
  simp [lastFilter, Edit.filter?]

theorem lastFilter_concat {e : Edit} (es : List Edit) (he : e.filter? = none) :
    lastFilter (es ++ [e]) = lastFilter es := by
  simp [lastFilter, he]

end LiveLog
