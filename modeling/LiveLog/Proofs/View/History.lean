import LiveLog.Proofs.View.Run
import Mathlib.Data.List.Chain

/-!
# A view and its history

A view keeps little: at most `cap` entries, each with a mark that was set at some time under some filter.
This file says what the entries are in terms of a history that keeps everything. **`history`** holds the
records that entered since the last clear, newest first, each with its number, and the number of a
record is its place among all records that ever entered. `entries_eq_take_history` says that the
entries are the front of the history, and that every mark tells what the filter set last says today.

The invariant is `Tracks`. It is kept edit by edit, and each edit touches one side of it only: a record
enters the history at the front, a clear empties it, a filter leaves it alone and renews the marks. The
cap shows in a single place, `take_cons_take`: what was evicted once is beyond the cap for good, so it
does not matter that the view forgets it.
-/

namespace LiveLog

/-! ## 1. The history -/

/-- **The history of a view**: the numbered records since the last clear, newest first. -/
def history (es : List Edit) : List (Record × Nat) :=
  ((arrivals es).zipIdx.drop (arrivals (untilClear es)).length).reverse

theorem history_concat_ingest (es : List Edit) (r : Record) :
    history (es ++ [.ingest r]) = (r, (arrivals es).length) :: history es := by
  have hlen : (arrivals (untilClear es)).length ≤ (arrivals es).zipIdx.length := by
    rw [List.length_zipIdx]
    conv_rhs => rw [← untilClear_append_sinceClear es, arrivals_append, List.length_append]
    omega
  have harr : arrivals (es ++ [.ingest r]) = arrivals es ++ [r] := arrivals_append es [.ingest r]
  unfold history
  rw [untilClear_concat es rfl, harr, List.zipIdx_append, List.drop_append_of_le_length hlen]
  simp

theorem history_concat_clear (es : List Edit) : history (es ++ [.clear]) = [] := by
  simp [history]

/-- What neither clears nor lets a record enter leaves the history alone. -/
theorem history_concat {e : Edit} (es : List Edit) (hc : e.isClear = false)
    (hr : e.record? = none) : history (es ++ [e]) = history es := by
  have harr : arrivals (es ++ [e]) = arrivals es := by
    rw [arrivals_append]
    simp [arrivals, hr]
  unfold history
  rw [untilClear_concat es hc, harr]

/-- A history is numbered downwards without a gap. -/
theorem history_isChain (es : List Edit) : (history es).IsChain fun a b => a.2 = b.2 + 1 := by
  unfold history
  rw [List.isChain_reverse, List.isChain_iff_getElem]
  intro i hi
  rw [List.getElem_drop, List.getElem_drop, List.getElem_zipIdx, List.getElem_zipIdx]
  simp only
  omega

/-- The number of a record is its place among all that entered. -/
theorem getElem?_of_mem_history {es : List Edit} {x : Record × Nat} (hx : x ∈ history es) :
    (arrivals es)[x.2]? = some x.1 := by
  have hmem : x ∈ (arrivals es).zipIdx := List.mem_of_mem_drop (List.mem_reverse.mp hx)
  exact List.mem_zipIdx_iff_getElem?.mp hmem

/-! ## 2. Entries -/

/-- The entry of a numbered record under a filter. -/
def Entry.under (f : Filter) (x : Record × Nat) : Entry :=
  { id := x.2, record := x.1, visible := f.passes x.1 }

/-- What is beyond the cap stays beyond it when something enters at the front. -/
theorem take_cons_take {α : Type} (a : α) (l : List α) (n : Nat) :
    (a :: l.take n).take n = (a :: l).take n := by
  cases n with
  | zero => rfl
  | succ n => rw [List.take_succ_cons, List.take_succ_cons, List.take_take, Nat.min_eq_left (Nat.le_succ n)]

namespace LogView

/-- **What a view has to do with the edits it comes from.** -/
structure Tracks (cap : Nat) (es : List Edit) (v : LogView) : Prop where
  cap_eq : v.cap = max cap 1
  nextId_eq : v.nextId = (arrivals es).length
  filter_eq : v.filter = lastFilter es
  entries_eq : v.entries = ((history es).take (max cap 1)).map (Entry.under (lastFilter es))

namespace Tracks

variable {cap : Nat} {es : List Edit} {v : LogView}

theorem new (cap : Nat) : Tracks cap [] (LogView.new cap) :=
  ⟨rfl, rfl, rfl, by simp [LogView.new, history, arrivals]⟩

theorem ingest (h : Tracks cap es v) (r : Record) :
    Tracks cap (es ++ [.ingest r]) (v.ingest r) := by
  have hf : lastFilter (es ++ [.ingest r]) = lastFilter es := lastFilter_concat es rfl
  refine ⟨h.cap_eq, ?_, ?_, ?_⟩
  · rw [arrivals_append, List.length_append, ← h.nextId_eq]
    rfl
  · rw [hf]
    exact h.filter_eq
  · -- The new entry is the head of the history, marked under the filter in force.
    have hentry : Entry.under (lastFilter es) (r, (arrivals es).length)
        = { id := v.nextId, record := r, visible := v.filter.passes r } := by
      rw [h.nextId_eq, h.filter_eq]
      rfl
    have hentries : (v.ingest r).entries
        = ({ id := v.nextId, record := r, visible := v.filter.passes r } :: v.entries).take v.cap := rfl
    rw [hentries, ← hentry, hf, history_concat_ingest, h.entries_eq, h.cap_eq, ← List.map_cons,
      ← List.map_take, take_cons_take]

theorem ingestStats (h : Tracks cap es v) (s : Stats) :
    Tracks cap (es ++ [.stats s]) (v.ingestStats s) := by
  have hf : lastFilter (es ++ [.stats s]) = lastFilter es := lastFilter_concat es rfl
  refine ⟨h.cap_eq, ?_, ?_, ?_⟩
  · rw [arrivals_append, List.length_append]
    exact h.nextId_eq
  · rw [hf]
    exact h.filter_eq
  · rw [hf, history_concat es rfl rfl]
    exact h.entries_eq

theorem setFilter (h : Tracks cap es v) (f : Filter) :
    Tracks cap (es ++ [.filter f]) (v.setFilter f) := by
  refine ⟨h.cap_eq, ?_, (lastFilter_concat_filter es f).symm, ?_⟩
  · rw [arrivals_append, List.length_append]
    exact h.nextId_eq
  · -- A mark is set anew from the record alone, so the mark it replaces does not matter.
    have hentries : (v.setFilter f).entries = v.entries.map fun e => { e with visible := f.passes e.record } :=
      rfl
    rw [hentries, lastFilter_concat_filter, history_concat es rfl rfl, h.entries_eq, List.map_map]
    rfl

theorem clear (h : Tracks cap es v) : Tracks cap (es ++ [.clear]) v.clear := by
  refine ⟨h.cap_eq, ?_, ?_, ?_⟩
  · rw [arrivals_append, List.length_append]
    exact h.nextId_eq
  · rw [lastFilter_concat es rfl]
    exact h.filter_eq
  · rw [history_concat_clear, List.take_nil]
    rfl

/-- **One edit keeps the invariant.** -/
theorem edit (h : Tracks cap es v) (e : Edit) : Tracks cap (es ++ [e]) (v.edit e) := by
  cases e with
  | ingest r => exact h.ingest r
  | stats s => exact h.ingestStats s
  | filter f => exact h.setFilter f
  | clear => exact h.clear

end Tracks

/-- **A view tracks its run.** -/
theorem tracks_editAll (cap : Nat) (es : List Edit) : Tracks cap es ((LogView.new cap).editAll es) := by
  induction es using List.reverseRecOn with
  | nil => exact Tracks.new cap
  | append_singleton es e ih =>
    rw [editAll_append]
    exact ih.edit e

/-! ## 3. The main statement -/

/-- What is shown of some numbered records is what the filter passes of them. -/
theorem map_record_filter_visible (f : Filter) (l : List (Record × Nat)) :
    ((l.map (Entry.under f)).filter (·.visible)).map (·.record) = (l.map Prod.fst).filter f.passes := by
  induction l with
  | nil => rfl
  | cons x rest ih =>
    rw [List.map_cons, List.map_cons, List.filter_cons, List.filter_cons]
    by_cases hx : f.passes x.1 = true
    · rw [if_pos hx, if_pos (show (Entry.under f x).visible = true from hx), List.map_cons, ih]
      rfl
    · rw [if_neg hx, if_neg (show ¬ (Entry.under f x).visible = true from hx), ih]

/-- **A view is the front of its history.** After any run the entries are the newest `cap` records of the
    history, each under its number and with the mark that the last filter gives it. Numbers go down by
    one from entry to entry, and the number of an entry is the place of its record among all records
    that entered in the whole run, the next number being how many those are: no clear and no snapshot
    ever brings a number back. So what is shown is what the last filter passes of the newest records,
    whenever it was set. -/
theorem entries_eq_take_history (cap : Nat) (cs : List Change) :
    let v := (LogView.new cap).run cs
    let kept := (history (edits cs)).take (max cap 1)
    v.entries = kept.map (Entry.under (lastFilter (edits cs))) ∧
    v.entries.IsChain (fun a b => a.id = b.id + 1) ∧
    (∀ e ∈ v.entries, (arrivals (edits cs))[e.id]? = some e.record) ∧
    v.nextId = (arrivals (edits cs)).length ∧
    v.visibleRecords = (kept.map Prod.fst).filter (lastFilter (edits cs)).passes := by
  intro v kept
  have h : Tracks cap (edits cs) v := by
    have hv : v = (LogView.new cap).editAll (edits cs) := run_eq_editAll _ cs
    rw [hv]
    exact tracks_editAll cap (edits cs)
  refine ⟨h.entries_eq, ?_, ?_, h.nextId_eq, ?_⟩
  · rw [h.entries_eq, List.isChain_map]
    exact (history_isChain (edits cs)).take _
  · intro e he
    rw [h.entries_eq] at he
    obtain ⟨x, hx, rfl⟩ := List.mem_map.mp he
    exact getElem?_of_mem_history (List.mem_of_mem_take hx)
  · have hvisible : v.visibleRecords = (v.entries.filter (·.visible)).map (·.record) := rfl
    rw [hvisible, h.entries_eq]
    exact map_record_filter_visible _ _

end LogView
end LiveLog
