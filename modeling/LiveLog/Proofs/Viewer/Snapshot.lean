import LiveLog.Net.Service
import LiveLog.Proofs.View.History
import LiveLog.Proofs.View.Tally
import LiveLog.Proofs.Viewer.Stimulus
import Mathlib

/-!
# Snapshots among pushed records

A snapshot of the log is asked for by a job, and its records come back twice: first in the frame of the
response, which settles the request, and some time later as the end of the job, which puts them in the
place of the whole table. Records that the server pushes meanwhile enter the table at once. So there is
a gap between the response and the end of its job, and the question is what becomes of a record that
is pushed in the gap.

It is lost (`push_before_result_lost`). The snapshot is put in the place of whatever the table holds,
and nothing keeps apart what was pushed before the response from what was pushed after it. What the
viewer does promise starts at the end of the job: from then on **every pushed record stands ahead of the
snapshot, and none is lost but by the cap** (`snapshot_then_pushes`). Neither the gap nor anything before
it leaves a trace in the table or in the total.
-/

namespace LiveLog

/-! ## 1. Records that enter a view -/

namespace LogView

theorem cap_edit (v : LogView) (e : Edit) : (v.edit e).cap = v.cap := by
  cases e <;> rfl

theorem cap_editAll (v : LogView) (es : List Edit) : (v.editAll es).cap = v.cap := by
  induction es generalizing v with
  | nil => rfl
  | cons e rest ih => rw [editAll_cons, ih, cap_edit]

/-- Without a clear the records that enter stand before those that were there. The cap cuts once, at the
    end: cutting at every entry comes to the same. -/
theorem records_editAll {v : LogView} {l : List Record} {es : List Edit}
    (h : v.entries.map (·.record) = l.take v.cap) (hes : ∀ e ∈ es, e.isClear = false) :
    (v.editAll es).entries.map (·.record) = ((arrivals es).reverse ++ l).take v.cap := by
  induction es generalizing v l with
  | nil => exact h
  | cons e rest ih =>
    have hrest : ∀ f ∈ rest, f.isClear = false := fun f hf => hes f (List.mem_cons_of_mem _ hf)
    rw [editAll_cons, ← cap_edit v e]
    cases e with
    | ingest r =>
      have hrecords : (v.ingest r).entries.map (·.record) = (r :: l).take (v.edit (.ingest r)).cap := by
        rw [cap_edit, ← take_cons_take, ← h]
        exact List.map_take
      rw [edit, ih hrecords hrest]
      have harr : arrivals (.ingest r :: rest) = r :: arrivals rest := rfl
      rw [harr, List.reverse_cons, List.append_assoc]
      rfl
    | stats s => exact ih h hrest
    | filter f =>
      refine ih ?_ hrest
      have hrecords : (v.setFilter f).entries.map (·.record) = v.entries.map (·.record) := by
        rw [setFilter, List.map_map]
        rfl
      exact hrecords.trans h
    | clear => exact absurd (hes .clear List.mem_cons_self) (by simp [Edit.isClear])

/-- Without a clear and without statistics the total counts what enters. -/
theorem total_editAll {v : LogView} {es : List Edit}
    (hes : ∀ e ∈ es, e.isClear = false ∧ e.stats? = none) :
    (v.editAll es).counters.total = v.counters.total + (arrivals es).length := by
  induction es generalizing v with
  | nil => rfl
  | cons e rest ih =>
    have hrest : ∀ f ∈ rest, f.isClear = false ∧ f.stats? = none :=
      fun f hf => hes f (List.mem_cons_of_mem _ hf)
    rw [editAll_cons, ih hrest]
    cases e with
    | ingest r =>
      have htotal : (v.edit (.ingest r)).counters.total = v.counters.total + 1 := by
        rw [edit, counters_ingest]
        exact Tally.total.value_count v.counters r
      have harr : arrivals (.ingest r :: rest) = r :: arrivals rest := rfl
      rw [htotal, harr, List.length_cons]
      omega
    | filter f => rfl
    | stats s => exact absurd (hes _ List.mem_cons_self).2 (by simp [Edit.stats?])
    | clear => exact absurd (hes _ List.mem_cons_self).1 (by simp [Edit.isClear])

/-- A snapshot leaves its own records, as many as the cap allows, and their number. -/
theorem records_replaceWith (v : LogView) (records : List Record) :
    let w := v.replaceWith records
    w.cap = v.cap ∧ w.entries.map (·.record) = records.take v.cap ∧
      w.counters.total = records.length := by
  intro w
  -- A snapshot is a clear and its records one by one, the last one first.
  have hw : w = v.clear.editAll (records.reverse.map .ingest) :=
    (editAll_map_ingest v.clear records.reverse).symm
  have harr : arrivals (records.reverse.map .ingest) = records.reverse := by
    simp [arrivals, List.filterMap_map, Function.comp_def, Edit.record?]
  have hcalm : ∀ e ∈ records.reverse.map Edit.ingest, e.isClear = false ∧ e.stats? = none := by
    intro e he
    obtain ⟨r, -, rfl⟩ := List.mem_map.mp he
    exact ⟨rfl, rfl⟩
  rw [hw]
  refine ⟨cap_editAll _ _, ?_, ?_⟩
  · have hempty : v.clear.entries.map (·.record) = [].take v.clear.cap := by
      rw [List.take_nil]
      rfl
    have h := records_editAll hempty fun e he => (hcalm e he).1
    rw [harr, List.reverse_reverse, List.append_nil] at h
    exact h
  · rw [total_editAll hcalm, harr, List.length_reverse]
    exact Nat.zero_add _

end LogView

/-! ## 2. Quiet stimuli -/

/-- **Whether a stimulus is none of the three that reset what was counted**: a snapshot, a clear, or
    statistics. -/
def Stimulus.isQuiet : Stimulus → Bool
  | .transport (.frame text) =>
    match Frame.read? text with
    | some (.stats _) => false
    | _ => true
  | .finished (.logsLoaded _) => false
  | .finished (.statsLoaded _) => false
  | .finished .serverCleared => false
  | .action .clearView => false
  | _ => true

/-- The records that are pushed in a run, in their order. -/
def pushes (run : List (Duration × Stimulus)) : List Record := run.filterMap fun x => x.2.pushed?

namespace Viewer

/-- What a quiet stimulus does to the log: the pushed record enters, if there is one, and otherwise at
    most the filter changes. -/
theorem changes_of_isQuiet (v : Viewer) {s : Stimulus} (hs : s.isQuiet = true) :
    (∃ r, s.pushed? = some r ∧ v.changes s = [.ingest r]) ∨
    (s.pushed? = none ∧ (v.changes s = [] ∨ ∃ f, v.changes s = [.filter f])) := by
  cases s with
  | transport event =>
    cases event with
    | frame text =>
      simp only [Stimulus.isQuiet] at hs
      simp only [Stimulus.pushed?, Stimulus.frame?, changes]
      cases h : Frame.read? text with
      | none => exact Or.inr ⟨rfl, Or.inl rfl⟩
      | some frame =>
        cases frame with
        | log r => exact Or.inl ⟨r, rfl, rfl⟩
        | stats x =>
          rw [h] at hs
          exact absurd hs (by simp)
        | response r => exact Or.inr ⟨rfl, Or.inl rfl⟩
        | other => exact Or.inr ⟨rfl, Or.inl rfl⟩
    | stateChanged c => exact Or.inr ⟨rfl, Or.inl rfl⟩
    | reconnectScheduled attempt most delay => exact Or.inr ⟨rfl, Or.inl rfl⟩
  | finished how =>
    cases how with
    | downloaded path trouble => exact Or.inr ⟨rfl, Or.inl rfl⟩
    | failed purpose error quiet => exact Or.inr ⟨rfl, Or.inl rfl⟩
    | logsLoaded records => exact absurd hs (by simp [Stimulus.isQuiet])
    | statsLoaded snapshot => exact absurd hs (by simp [Stimulus.isQuiet])
    | serverCleared => exact absurd hs (by simp [Stimulus.isQuiet])
  | action a =>
    cases a with
    | clearView => exact absurd hs (by simp [Stimulus.isQuiet])
    | applyFilter | clearFilter | cycleLevelFilter | cycleCategoryFilter =>
      exact Or.inr ⟨rfl, Or.inr ⟨_, rfl⟩⟩
    | _ => exact Or.inr ⟨rfl, Or.inl rfl⟩
  | tick => exact Or.inr ⟨rfl, Or.inl rfl⟩
  | draw width height => exact Or.inr ⟨rfl, Or.inl rfl⟩
  | jobsRan correlator => exact Or.inr ⟨rfl, Or.inl rfl⟩

/-- The edits of one quiet stimulus. -/
theorem edits_of_isQuiet (v : Viewer) {s : Stimulus} (hs : s.isQuiet = true) :
    (∀ e ∈ edits (v.changes s), e.isClear = false ∧ e.stats? = none) ∧
    arrivals (edits (v.changes s)) = s.pushed?.toList := by
  rcases v.changes_of_isQuiet hs with ⟨r, hr, hc⟩ | ⟨hr, hc | ⟨f, hc⟩⟩
  · rw [hc, hr]
    exact ⟨by simp [edits, Change.edits, Edit.isClear, Edit.stats?], rfl⟩
  · rw [hc, hr]
    exact ⟨by simp [edits], rfl⟩
  · rw [hc, hr]
    exact ⟨by simp [edits, Change.edits, Edit.isClear, Edit.stats?], rfl⟩

/-- **A quiet run lets the pushed records enter**, and resets nothing. -/
theorem edits_of_quiet {v : Viewer} {run : List (Duration × Stimulus)}
    (hrun : ∀ x ∈ run, x.2.isQuiet = true) :
    (∀ e ∈ edits (v.allChanges run), e.isClear = false ∧ e.stats? = none) ∧
    arrivals (edits (v.allChanges run)) = pushes run := by
  induction run generalizing v with
  | nil => exact ⟨fun e he => absurd he List.not_mem_nil, rfl⟩
  | cons x rest ih =>
    obtain ⟨hcalm, harr⟩ := v.edits_of_isQuiet (hrun x List.mem_cons_self)
    obtain ⟨hcalms, harrs⟩ := ih (v := (v.react x.1 x.2).1)
      fun y hy => hrun y (List.mem_cons_of_mem _ hy)
    have hedits : edits (v.allChanges (x :: rest))
        = edits (v.changes x.2) ++ edits (allChanges (v.react x.1 x.2).1 rest) := List.flatMap_append
    constructor
    · intro e he
      rw [hedits] at he
      rcases List.mem_append.mp he with he | he
      · exact hcalm e he
      · exact hcalms e he
    · rw [hedits, arrivals_append, harr, harrs]
      unfold pushes
      rw [List.filterMap_cons]
      cases x.2.pushed? <;> rfl

/-- **From a snapshot on**: what the table and the total are after a quiet run that begins with the end of
    a job that loaded records. What the viewer was before does not matter. -/
theorem log_live_logsLoaded (v : Viewer) (now : Duration) (records : List Record)
    {later : List (Duration × Stimulus)} (hlater : ∀ x ∈ later, x.2.isQuiet = true) :
    let w := v.live ((now, .finished (.logsLoaded records)) :: later)
    w.log.entries.map (·.record) = ((pushes later).reverse ++ records).take v.log.cap ∧
    w.log.counters.total = records.length + (pushes later).length := by
  intro w
  obtain ⟨hcalm, harr⟩ := edits_of_quiet (v := v.handleFinished now (.logsLoaded records)) hlater
  have hw : w.log = (v.log.replaceWith records).editAll
      (edits ((v.handleFinished now (.logsLoaded records)).allChanges later)) := by
    have hlive : w = (v.handleFinished now (.logsLoaded records)).live later := rfl
    rw [hlive, log_live, LogView.run_eq_editAll]
    rfl
  obtain ⟨hcap, hrecords, htotal⟩ := v.log.records_replaceWith records
  rw [hw]
  constructor
  · rw [← hcap] at hrecords ⊢
    rw [LogView.records_editAll hrecords fun e he => (hcalm e he).1, harr]
  · rw [LogView.total_editAll hcalm, harr, htotal]

/-- A run never changes the cap. -/
theorem cap_live (v : Viewer) (run : List (Duration × Stimulus)) : (v.live run).log.cap = v.log.cap := by
  rw [log_live, LogView.run_eq_editAll, LogView.cap_editAll]

/-! ## 3. The main statements

The texts and records here are of one run: a request for the log is answered with the record `old`, and
the record `new` is pushed after that. -/

namespace Sample

def old : Record := { timestamp := "", level := "INFO", message := "old" }

def new : Record := { timestamp := "", level := "ERROR", message := "new" }

/-- The data of the answer. -/
def data : Json := .array [.object [("level", .string "INFO"), ("message", .string "old")]]

/-- The answer to the first request. -/
def response : String :=
  "\x7b\"type\":\"response\",\"requestId\":1,\"success\":true," ++
    "\"data\":[\x7b\"level\":\"INFO\",\"message\":\"old\"\x7d]\x7d"

def push : String := "\x7b\"type\":\"log_update\",\"level\":\"ERROR\",\"message\":\"new\"\x7d"

/-- A viewer of default settings whose first request is pending. -/
def viewer : Viewer :=
  let job : Job := { operation := .fetchLogs 100 0 }
  let pending := (({} : Correlator).issue .open true job.operation.kind job.operation.data "").2
  { Viewer.new {} with correlator := pending }

theorem read_response : Frame.read? response
    = some (.response { id := 1, success := true, data := some data, error := none }) := by
  cbv

theorem outcome_response : Response.outcome { id := 1, success := true, data := some data, error := none }
    = .ok data := rfl

theorem records_data : Record.listOfJson data = .ok [old] := by
  cbv

end Sample

/-- **From the end of its job on, a snapshot loses no push.** A response to a request for the log, which
    itself leaves the log alone, ends its job with its records. Once that end and any quiet run after it
    have been handled, the table is the records pushed after the end, newest first, and then the
    snapshot, cut at the cap; and the total is as many as those are, uncut. So a record pushed after
    the end has exactly the later pushes ahead of it, and all of the snapshot behind it. What was
    pushed in the gap between the response and the end of its job is in neither. -/
theorem snapshot_then_pushes (v : Viewer) (limit offset : Nat) {text : String} {r : Response}
    {data : Json} {records : List Record} (hread : Frame.read? text = some (.response r))
    (hok : r.outcome = .ok data) (hdata : Record.listOfJson data = .ok records) (t now : Duration)
    (gap : List (Duration × Stimulus)) {later : List (Duration × Stimulus)}
    (hlater : ∀ x ∈ later, x.2.isQuiet = true) :
    let job : Job := { operation := .fetchLogs limit offset }
    let response : Stimulus := .transport (.frame text)
    let result : Stimulus := .finished (.logsLoaded records)
    let w := v.live ((t, response) :: gap ++ (now, result) :: later)
    (v.react t response).1.log = v.log ∧
    (job.operation.settled? r.outcome).map job.ending = some (.finished (.logsLoaded records)) ∧
    w.log.entries.map (·.record) = ((pushes later).reverse ++ records).take v.log.cap ∧
    w.log.counters.total = records.length + (pushes later).length ∧
    ∀ before x pushed rest, later = before ++ x :: rest → x.2.pushed? = some pushed →
      (pushes rest).length < v.log.cap →
      w.log.entries.map (·.record) = (pushes rest).reverse ++
        pushed :: ((pushes before).reverse ++ records).take (v.log.cap - (pushes rest).length - 1) := by
  intro job response result w
  have hw : w = (v.live ((t, response) :: gap)).live ((now, result) :: later) := live_append v _ _
  obtain ⟨hrecords, htotal⟩ := (v.live ((t, response) :: gap)).log_live_logsLoaded now records hlater
  rw [cap_live] at hrecords
  refine ⟨?_, ?_, ?_, ?_, ?_⟩
  · rw [log_react, changes, hread]
    rfl
  · have hanswer : job.operation.decode data = .ok (.logs records) := by
      rw [Operation.decode, hdata]
      rfl
    rw [hok, Operation.settled?, hanswer]
    rfl
  · rw [hw]
    exact hrecords
  · rw [hw]
    exact htotal
  · -- The pushes after `x` leave room for one more, so the cut falls behind the record of `x`.
    intro before x pushed rest hsplit hx hroom
    have hpushes : (pushes later).reverse
        = (pushes rest).reverse ++ pushed :: (pushes before).reverse := by
      rw [hsplit, pushes, List.filterMap_append, List.filterMap_cons, hx, List.reverse_append,
        List.reverse_cons, List.append_assoc]
      rfl
    have hone : v.log.cap - (pushes rest).length = v.log.cap - (pushes rest).length - 1 + 1 := by omega
    rw [hw, hrecords, hpushes, List.append_assoc, List.cons_append, List.take_append,
      List.take_of_length_le (by rw [List.length_reverse]; omega), List.length_reverse, hone,
      List.take_succ_cons, Nat.add_sub_cancel]

/-- A push after the end of the job is the first record of the table, before the snapshot. -/
theorem snapshot_then_one_push :
    let later : List (Duration × Stimulus) := [(⟨2⟩, .transport (.frame Sample.push))]
    let w := Sample.viewer.live ((⟨0⟩, .transport (.frame Sample.response)) :: [] ++
      (⟨1⟩, .finished (.logsLoaded [Sample.old])) :: later)
    w.log.entries.map (·.record) = [Sample.new, Sample.old].take Sample.viewer.log.cap ∧
    w.log.counters.total = 2 := by
  intro later w
  have hpushes : pushes later = [Sample.new] := by cbv
  have hquiet : ∀ x ∈ later, x.2.isQuiet = true := by
    intro x hx
    rw [List.mem_singleton.mp hx]
    cbv
  have h := snapshot_then_pushes Sample.viewer 100 0 Sample.read_response Sample.outcome_response
    Sample.records_data ⟨0⟩ ⟨1⟩ [] hquiet
  obtain ⟨-, -, hrecords, htotal, -⟩ := h
  rw [hpushes] at hrecords htotal
  constructor
  · rw [hrecords]
    rfl
  · rw [htotal]
    rfl

/-- **A push before the end of the job is lost.** The response settles the request, then a record is pushed,
    and then the job ends with the records of the response. The table has room for a thousand records,
    and only the snapshot is in it; nor does the total count what was pushed. -/
theorem push_before_result_lost :
    let gap : List (Duration × Stimulus) := [(⟨1⟩, .transport (.frame Sample.push))]
    let w := Sample.viewer.live ((⟨0⟩, .transport (.frame Sample.response)) :: gap ++
      [(⟨2⟩, .finished (.logsLoaded [Sample.old]))])
    (Frame.route Sample.response Sample.viewer.correlator Sample.viewer.log).1 = .resolved 1 ∧
    pushes gap = [Sample.new] ∧ (pushes gap).length < w.log.cap ∧
    w.log.entries.map (·.record) = [Sample.old] ∧
    w.log.counters.total ≠ [Sample.old].length + (pushes gap).length := by
  intro gap w
  have hpushes : pushes gap = [Sample.new] := by cbv
  have hcap : w.log.cap = Sample.viewer.log.cap := cap_live _ _
  have hw : w = (Sample.viewer.live ((⟨0⟩, .transport (.frame Sample.response)) :: gap)).live
      [(⟨2⟩, .finished (.logsLoaded [Sample.old]))] := live_append _ _ _
  have h := (Sample.viewer.live ((⟨0⟩, .transport (.frame Sample.response)) :: gap)).log_live_logsLoaded
    ⟨2⟩ [Sample.old] fun x hx => absurd hx List.not_mem_nil
  obtain ⟨hrecords, htotal⟩ := h
  rw [← hw] at hrecords htotal
  rw [cap_live] at hrecords
  refine ⟨Frame.route_response Sample.read_response _ _, hpushes, ?_, ?_, ?_⟩
  · rw [hpushes, hcap]
    decide
  · rw [hrecords]
    rfl
  · rw [hpushes, htotal]
    decide

end Viewer
end LiveLog
