import LiveLog.Proofs.Router.Landing
import Mathlib

/-!
# The two halves of routing

Frames of two sorts arrive on one stream: what the server pushes, and its answers to requests. Routing
takes them apart again. The claim here is that the two halves never mix, and it is a claim about pairs of
runs: **two streams with the same pushes leave the same sink**, whatever answers, unknown frames and broken
texts are strewn in, and **two streams with the same answers leave the same table of requests**.

Both follow from a description of each half that does not mention the other. The sink is a fold over what
was pushed (`sink_routeAll`), and the table is a fold over what was answered (`table_routeAll`).
-/

namespace LiveLog
namespace Frame

/-! ## 1. The two sorts of frames -/

/-- Whether a frame is for the sink. -/
def isPush : Frame → Bool
  | .log _ => true
  | .stats _ => true
  | _ => false

/-- The response in a frame. -/
def response? : Frame → Option Response
  | .response r => some r
  | _ => none

/-- The frames among texts that are for the sink. -/
def pushed (texts : List String) : List Frame := (texts.filterMap read?).filter isPush

/-- The responses among texts. -/
def responses (texts : List String) : List Response := (texts.filterMap read?).filterMap response?

section

variable {σ : Type} [Sink σ]

/-- **Routes texts one after another**, with all answers in their order. -/
def routeAll : List String → Correlator → σ → List Routed × Correlator × σ
  | [], c, s => ([], c, s)
  | text :: rest, c, s =>
    let (answer, c, s) := route text c s
    let (answers, c, s) := routeAll rest c s
    (answer :: answers, c, s)

theorem routeAll_cons (text : String) (rest : List String) (c : Correlator) (s : σ) :
    routeAll (text :: rest) c s =
      ((route text c s).1 :: (routeAll rest (route text c s).2.1 (route text c s).2.2).1,
        (routeAll rest (route text c s).2.1 (route text c s).2.2).2) := rfl

/-! ## 2. What one text does -/

variable {text : String} {c c' : Correlator} {s s' : σ} {answer : Routed}

/-- The table afterwards is what the response in the text makes of it, if it holds one. -/
theorem Lands.table_eq (h : Lands text c s answer c' s') :
    c' = (((read? text).bind response?).map fun r => (c.resolve r).2).getD c := by
  cases h with
  | resolved r hread hpending | unmatched r hread hpending =>
    have hresponse : (read? text).bind response? = some r := by
      rw [hread]
      rfl
    rw [hresponse, Option.map_some, Option.getD_some, Correlator.resolve, hpending]
    rfl
  | log r hread | stats x hread | ignored type hread | malformed hread =>
    rw [hread]
    rfl

theorem decide_resolved_ne (m n : Nat) : decide (Routed.resolved m ≠ .resolved n) = (n != m) := by
  by_cases hn : n = m
  · simp [hn]
  · simp [hn, Ne.symm hn]

/-- **An entry leaves the table with the answer that names it**, and in no other way. -/
theorem Lands.pending_eq (h : Lands text c s answer c' s') :
    c'.pending = c.pending.filter fun p => answer ≠ .resolved p.1 := by
  cases h with
  | resolved r hread hpending =>
    show c.pending.filter (·.1 != r.id) = _
    simp only [decide_resolved_ne]
  | log r hread | stats x hread | unmatched r hread | ignored type hread | malformed hread =>
    refine (List.filter_eq_self.mpr ?_).symm
    intro p _
    simp

/-- Only an entry that is there can be removed. -/
theorem Lands.mem_of_resolved (h : Lands text c s answer c' s') {id : Nat} (hanswer : answer = .resolved id) :
    ∃ p ∈ c.pending, p.1 = id := by
  cases h with
  | resolved r hread hpending =>
    obtain rfl : r.id = id := by simpa using hanswer
    obtain ⟨p, hp, hid⟩ := List.any_eq_true.mp hpending
    exact ⟨p, hp, beq_iff_eq.mp hid⟩
  | log | stats | unmatched | ignored | malformed => exact absurd hanswer (by simp)

theorem Lands.pending_ne_iff (h : Lands text c s answer c' s') :
    c'.pending ≠ c.pending ↔ ∃ id, answer = .resolved id := by
  rw [h.pending_eq, Ne, List.filter_eq_self]
  constructor
  · intro hchanged
    apply Classical.byContradiction
    intro hnone
    apply hchanged
    intro p _
    exact decide_eq_true fun hanswer => hnone ⟨p.1, hanswer⟩
  · intro ⟨id, hanswer⟩ hsame
    obtain ⟨p, hp, rfl⟩ := h.mem_of_resolved hanswer
    exact of_decide_eq_true (hsame p hp) hanswer

/-! ## 3. What many texts do -/

theorem sink_routeAll (texts : List String) (c : Correlator) (s : σ) :
    (routeAll texts c s).2.2 = (pushed texts).foldl into s := by
  induction texts generalizing c s with
  | nil => rfl
  | cons text rest ih =>
    rw [routeAll_cons, ih, route_sink, pushed, pushed, List.filterMap_cons]
    cases read? text with
    | none => rfl
    | some frame => cases frame <;> rfl

theorem table_routeAll (texts : List String) (c : Correlator) (s : σ) :
    (routeAll texts c s).2.1 = (responses texts).foldl (fun c r => (c.resolve r).2) c := by
  induction texts generalizing c s with
  | nil => rfl
  | cons text rest ih =>
    rw [routeAll_cons, ih, (lands_route text c s).table_eq, responses, responses, List.filterMap_cons]
    cases read? text with
    | none => rfl
    | some frame => cases frame <;> rfl

theorem pending_routeAll (texts : List String) (c : Correlator) (s : σ) :
    (routeAll texts c s).2.1.pending
      = c.pending.filter fun p => .resolved p.1 ∉ (routeAll texts c s).1 := by
  induction texts generalizing c s with
  | nil =>
    refine (List.filter_eq_self.mpr ?_).symm
    intro p _
    exact decide_eq_true List.not_mem_nil
  | cons text rest ih =>
    -- What the first answer removes and what the others remove is gone together.
    rw [routeAll_cons, ih, (lands_route text c s).pending_eq, List.filter_filter]
    apply List.filter_congr
    intro p _
    rw [← Bool.decide_and, decide_eq_decide, List.mem_cons, not_or, and_comm]
    exact and_congr_left' ne_comm

end

/-! ## 4. The halves do not interfere -/

namespace Sample

def record : Record := { timestamp := "", level := "INFO", message := "m" }

def push : String := "\x7b\"type\":\"log_update\",\"level\":\"INFO\",\"message\":\"m\"\x7d"

def response : String := "\x7b\"type\":\"response\",\"requestId\":1,\"success\":true\x7d"

/-- A table whose first request is pending. -/
def table : Correlator := { nextId := 2, pending := [(1, { id := 1, kind := .getStats })] }

def view : LogView := .new 5

theorem read_push : read? push = some (.log record) := by cbv

theorem read_response :
    read? response = some (.response { id := 1, success := true, data := none, error := none }) := by cbv

theorem read_broken : read? "?" = none := by cbv

end Sample

/-- **Pushes and responses do not interfere.**

    A text that is pushed is answered so, and an entry of the table is removed exactly by the answer that it
    is resolved. Of any number of texts, the sink has taken in what was pushed, once each and in order,
    and nothing else; the table has lost the entries that were resolved, and nothing else. So what is
    not pushed may be put in or left out anywhere, and another table may have stood by: the sink
    comes out the same. And what is no response may be put in or left out anywhere, and another sink may
    have stood by: the table comes out the same, pending requests and outcomes alike. -/
theorem halves_do_not_interfere {σ τ : Type} [Sink σ] [Sink τ] (c : Correlator) (s : σ) :
    (∀ text, let out := route text c s
      (out.1 = .log ↔ ∃ r, read? text = some (.log r)) ∧
      (out.1 = .stats ↔ ∃ x, read? text = some (.stats x)) ∧
      (out.2.1.pending ≠ c.pending ↔ ∃ id, out.1 = .resolved id) ∧
      ∀ id, out.1 = .resolved id → out.2.1.pending = c.pending.filter (·.1 != id)) ∧
    (∀ texts, let out := routeAll texts c s
      out.2.2 = (pushed texts).foldl into s ∧
      out.2.1.pending = c.pending.filter fun p => .resolved p.1 ∉ out.1) ∧
    (∀ texts texts' (d : Correlator), pushed texts' = pushed texts →
      (routeAll texts' d s).2.2 = (routeAll texts c s).2.2) ∧
    (∀ texts texts' (t : τ), responses texts' = responses texts →
      (routeAll texts' c t).2.1 = (routeAll texts c s).2.1) := by
  refine ⟨?_, ?_, ?_, ?_⟩
  · intro text out
    have hlands : Lands text c s out.1 out.2.1 out.2.2 := lands_route text c s
    refine ⟨hlands.log_iff, hlands.stats_iff, hlands.pending_ne_iff, ?_⟩
    intro id hanswer
    rw [hlands.pending_eq, hanswer]
    simp only [decide_resolved_ne]
  · intro texts
    exact ⟨sink_routeAll texts c s, pending_routeAll texts c s⟩
  · intro texts texts' d hpushed
    rw [sink_routeAll, sink_routeAll, hpushed]
  · intro texts texts' t hresponses
    rw [table_routeAll, table_routeAll, hresponses]

/-- A push, an answer and a broken text, in a stream for a view and one request that is pending. The view
    is what the push alone makes of it, and the table is what the answer alone makes of it. -/
theorem push_and_response_do_not_interfere :
    let texts := [Sample.response, "?", Sample.push]
    (routeAll texts Sample.table Sample.view).2.2 = (routeAll [Sample.push] {} Sample.view).2.2 ∧
    (routeAll texts Sample.table Sample.view).2.2 = Sample.view.ingest Sample.record ∧
    (routeAll texts Sample.table Sample.view).2.1
      = (routeAll [Sample.response] Sample.table Sample.view).2.1 ∧
    (routeAll texts Sample.table Sample.view).2.1.pending = [] := by
  intro texts
  have hpushed : pushed texts = [.log Sample.record] := by
    simp [texts, pushed, Sample.read_push, Sample.read_response, Sample.read_broken, isPush]
  have hpush : pushed [Sample.push] = pushed texts := by
    rw [hpushed]
    simp [pushed, Sample.read_push, isPush]
  have hresponse : responses [Sample.response] = responses texts := by
    simp [texts, responses, Sample.read_push, Sample.read_response, Sample.read_broken, response?]
  obtain ⟨_, hall, hsink, htable⟩ :=
    halves_do_not_interfere (σ := LogView) (τ := LogView) Sample.table Sample.view
  obtain ⟨hview, hpending⟩ := hall texts
  refine ⟨(hsink texts _ {} hpush).symm, ?_, (htable texts _ _ hresponse).symm, ?_⟩
  · rw [hview, hpushed]
    rfl
  · rw [hpending, List.filter_eq_nil_iff]
    intro p hp
    have hanswer : (route Sample.response Sample.table Sample.view).1 = .resolved 1 :=
      route_response Sample.read_response _ _
    rw [List.mem_singleton.mp hp]
    show ¬ decide (Routed.resolved 1 ∉ (routeAll (Sample.response :: ["?", Sample.push]) _ _).1) = true
    rw [routeAll_cons, hanswer]
    simp

end Frame
end LiveLog
