import LiveLog.Proofs.View.Run

/-!
# What the counters say

Three things move a counter: a record that counts toward it adds one, a statistics snapshot that names it
overwrites it, and a clear sets it to zero. This file says what a counter is after any run, without
following the run: **the value of the last snapshot that named it since the last clear, and one more for
every record after that**.

The five counters are treated as one. A `Tally` names a counter, and three functions of it are all that
the proofs use: where its value stands (`value`), what a snapshot reports for it (`reported`), and
which records count toward it (`counts`). That the three agree on which field is meant is `value_count`
and `value_overwrite`, the only places where the fields are looked at one by one.

Neither the cap nor the filter occurs in what a counter is. The counters do not even look at the
entries, so two views that differ in anything else count alike (`counters_editAll_congr`).
-/

namespace LiveLog

/-! ## 1. The counters, one by one -/

/-- The name of a counter: the one of all records, or the one of a bucket. -/
inductive Tally where
  | total
  | bucket (b : Severity)
deriving DecidableEq, Repr

namespace Tally

/-- The counter in a set of counters. -/
def value (t : Tally) (c : Counters) : Nat :=
  match t with
  | .total => c.total
  | .bucket b => c.get b

/-- What a snapshot reports for the counter, if it names it. -/
def reported (t : Tally) (s : Stats) : Option Nat :=
  match t with
  | .total => s.total
  | .bucket .debug => s.debug
  | .bucket .info => s.info
  | .bucket .warning => s.warning
  | .bucket .error => s.error

/-- Whether a record counts toward the counter. -/
def counts (t : Tally) (r : Record) : Bool :=
  match t with
  | .total => true
  | .bucket b => Severity.ofLevel r.level == some b

theorem value_count (t : Tally) (c : Counters) (r : Record) :
    t.value (c.count r) = t.value c + (if t.counts r then 1 else 0) := by
  have hlevel : Severity.ofLevel r.level = r.severity := rfl
  unfold value counts Counters.count
  rw [hlevel]
  cases t with
  | total => cases r.severity with
    | none => rfl
    | some b => cases b <;> rfl
  | bucket a => cases r.severity with
    | none => cases a <;> rfl
    | some b => cases a <;> cases b <;> rfl

theorem value_overwrite (t : Tally) (c : Counters) (s : Stats) :
    t.value (c.overwrite s) = (t.reported s).getD (t.value c) := by
  cases t with
  | total => rfl
  | bucket b => cases b <;> rfl

theorem value_empty (t : Tally) : t.value {} = 0 := by
  cases t with
  | total => rfl
  | bucket b => cases b <;> rfl

/-! ## 2. The closed form -/

/-- What an edit reports for the counter. -/
def report? (t : Tally) (e : Edit) : Option Nat := e.stats?.bind t.reported

/-- The value last reported since the last clear; zero if there was none. -/
def base (t : Tally) (es : List Edit) : Nat := (((sinceClear es).filterMap t.report?).getLast?).getD 0

/-- The edits after that report, or after the last clear if there was none. -/
def afterReport (t : Tally) (es : List Edit) : List Edit :=
  (sinceClear es).rtakeWhile fun e => (t.report? e).isNone

/-- **What a counter comes to**: the value last reported, and the records after it that count. -/
def sum (t : Tally) (es : List Edit) : Nat := t.base es + (arrivals (t.afterReport es)).countP t.counts

theorem sum_concat_clear (t : Tally) (es : List Edit) : t.sum (es ++ [.clear]) = 0 := by
  simp [sum, base, afterReport, arrivals]

/-- An edit that neither clears nor reports takes its place after the report. -/
theorem sum_concat {t : Tally} {e : Edit} (es : List Edit) (hc : e.isClear = false)
    (hr : t.report? e = none) :
    t.sum (es ++ [e]) = t.sum es + (arrivals [e]).countP t.counts := by
  have hbase : t.base (es ++ [e]) = t.base es := by
    unfold base
    rw [sinceClear_concat es hc, List.filterMap_append]
    simp [hr]
  have hafter : t.afterReport (es ++ [e]) = t.afterReport es ++ [e] := by
    unfold afterReport
    rw [sinceClear_concat es hc]
    exact List.rtakeWhile_concat_pos _ _ _ (by simp [hr])
  unfold sum
  rw [hbase, hafter, arrivals_append, List.countP_append, Nat.add_assoc]

theorem sum_concat_report {t : Tally} {e : Edit} {n : Nat} (es : List Edit) (hc : e.isClear = false)
    (hr : t.report? e = some n) : t.sum (es ++ [e]) = n := by
  have hbase : t.base (es ++ [e]) = n := by
    unfold base
    rw [sinceClear_concat es hc, List.filterMap_append]
    simp [hr]
  have hafter : t.afterReport (es ++ [e]) = [] := by
    unfold afterReport
    rw [sinceClear_concat es hc]
    exact List.rtakeWhile_concat_neg _ _ _ (by simp [hr])
  unfold sum
  rw [hbase, hafter]
  rfl

end Tally

namespace LogView

theorem counters_ingest (v : LogView) (r : Record) : (v.ingest r).counters = v.counters.count r := by
  simp only [ingest]

theorem counters_ingestStats (v : LogView) (s : Stats) :
    (v.ingestStats s).counters = v.counters.overwrite s := by
  simp only [ingestStats]

/-- **A counter is its closed form**, edit by edit. -/
theorem value_editAll (cap : Nat) (t : Tally) (es : List Edit) :
    t.value ((LogView.new cap).editAll es).counters = t.sum es := by
  -- The last edit decides: whatever it does, the closed form says it of the list it ends.
  induction es using List.reverseRecOn with
  | nil => exact t.value_empty
  | append_singleton es e ih =>
    rw [editAll_append, editAll_cons, editAll_nil]
    cases e with
    | ingest r =>
      rw [edit, counters_ingest, Tally.value_count, ih, Tally.sum_concat (e := .ingest r) es rfl rfl]
      cases h : t.counts r <;> simp [arrivals, Edit.record?, h]
    | stats s =>
      rw [edit, counters_ingestStats, Tally.value_overwrite, ih]
      cases h : t.reported s with
      | none => exact (Tally.sum_concat (e := .stats s) es rfl h).symm
      | some n => exact (Tally.sum_concat_report (e := .stats s) es rfl h).symm
    | filter f => exact ih.trans (Tally.sum_concat (e := .filter f) es rfl rfl).symm
    | clear => exact t.value_empty.trans (t.sum_concat_clear es).symm

/-! ## 3. What counters do not look at -/

/-- Views with the same counters go on to have the same counters. -/
theorem counters_editAll_congr {v w : LogView} (h : v.counters = w.counters) (es : List Edit) :
    (v.editAll es).counters = (w.editAll es).counters := by
  induction es generalizing v w with
  | nil => exact h
  | cons e rest ih =>
    refine ih ?_
    cases e with
    | ingest r => rw [edit, edit, counters_ingest, counters_ingest, h]
    | stats s => rw [edit, edit, counters_ingestStats, counters_ingestStats, h]
    | filter f => exact h
    | clear => rfl

/-- Setting filters leaves no trace in the counters. -/
theorem counters_run_filter {v w : LogView} (h : v.counters = w.counters) (cs : List Change) :
    (v.run (cs.filter fun c => !c.isFilter)).counters = (w.run cs).counters := by
  induction cs generalizing v w with
  | nil => exact h
  | cons c rest ih =>
    by_cases hc : c.isFilter = true
    · rw [List.filter_cons_of_neg (by simp [hc])]
      refine ih (w := w.change c) ?_
      cases c with
      | filter f => exact h
      | ingest | stats | replace | clear => cases hc
    · rw [List.filter_cons_of_pos (by simpa using hc)]
      refine ih (v := v.change c) (w := w.change c) ?_
      rw [change_eq_editAll, change_eq_editAll]
      exact counters_editAll_congr h c.edits

/-! ## 4. The number of clients -/

/-- The number of clients that was last reported. Nothing but a report changes it. -/
def lastClients (es : List Edit) : Option Nat :=
  (es.filterMap fun e => e.stats?.bind (·.clients)).getLast?

theorem clients_editAll (cap : Nat) (es : List Edit) :
    ((LogView.new cap).editAll es).clients = lastClients es := by
  induction es using List.reverseRecOn with
  | nil => rfl
  | append_singleton es e ih =>
    rw [editAll_append]
    unfold lastClients at ih ⊢
    rw [List.filterMap_append, List.getLast?_append, ← ih]
    cases e with
    | stats s => cases h : s.clients <;> simp [edit, ingestStats, Edit.stats?, h]
    | ingest r => rfl
    | filter f => rfl
    | clear => rfl

/-! ## 5. The main statement -/

/-- **The counters in closed form.** After any run every counter is the value of the last snapshot that
    named it since the last clear or replacing snapshot, zero if there was none, and one for each
    record after it that counts; a record counts whether or not the cap evicted it. The cap and the
    filters have no part in it: with any other cap, and with all settings of filters left out, the
    counters are the same. The number of clients is the last one reported in the whole run. -/
theorem counters_closed_form (cap : Nat) (cs : List Change) :
    let v := (LogView.new cap).run cs
    (∀ t : Tally, t.value v.counters = t.base (edits cs)
      + (arrivals (t.afterReport (edits cs))).countP t.counts) ∧
    (∀ cap' : Nat, ((LogView.new cap').run (cs.filter fun c => !c.isFilter)).counters = v.counters) ∧
    v.clients = lastClients (edits cs) := by
  intro v
  have hv : v = (LogView.new cap).editAll (edits cs) := run_eq_editAll _ cs
  refine ⟨fun t => ?_, fun cap' => ?_, ?_⟩
  · rw [hv]
    exact value_editAll cap t (edits cs)
  · exact counters_run_filter (v := LogView.new cap') (w := LogView.new cap) rfl cs
  · rw [hv]
    exact clients_editAll cap (edits cs)

end LogView
end LiveLog
