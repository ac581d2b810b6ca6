import LiveLog.Net.Router
import LiveLog.Proofs.Correlator.Table

/-!
# Where a frame lands

Routing reads a text and then hands it on. What the text is as a frame does not depend on the table or the
sink (`Frame.read?`), and what happens then depends on nothing else about the text, up to a name that is
only given back. `Frame.Lands` lists the places where a text can land, with all that becomes of the table
and the sink there; `lands_route` says that the list is complete.
-/

namespace LiveLog
namespace Frame

/-! ## 1. Where a text lands -/

/-- The frame that a text is, unless it is malformed. -/
def read? (text : String) : Option Frame := (Json.parse text).bind fun document =>
  (ofJson document).toOption

variable {σ : Type} [Sink σ]

/-- What a sink becomes by a frame. -/
def into (s : σ) : Frame → σ
  | .log r => Sink.takeLog s r
  | .stats x => Sink.takeStats s x
  | .response _ => s
  | .other => s

/-- **Where a text can land**: the answer, and the table and the sink after it. -/
inductive Lands (text : String) (c : Correlator) (s : σ) : Routed → Correlator → σ → Prop
  | log (r : Record) (hread : read? text = some (.log r)) : Lands text c s .log c (Sink.takeLog s r)
  | stats (x : Stats) (hread : read? text = some (.stats x)) :
      Lands text c s .stats c (Sink.takeStats s x)
  | resolved (r : Response) (hread : read? text = some (.response r)) (hpending : c.isPending r.id = true) :
      Lands text c s (.resolved r.id)
        { c.forget r.id with delivered := (r.id, r.outcome) :: c.delivered } s
  | unmatched (r : Response) (hread : read? text = some (.response r))
      (hpending : c.isPending r.id = false) : Lands text c s (.unmatched r.id) c s
  | ignored (type : Option String) (hread : read? text = some .other) : Lands text c s (.ignored type) c s
  | malformed (hread : read? text = none) : Lands text c s .malformed c s

theorem lands_dispatch {text : String} {frame : Frame} (hread : read? text = some frame)
    (type : Option String) (c : Correlator) (s : σ) :
    Lands text c s (dispatch type c s frame).1 (dispatch type c s frame).2.1
      (dispatch type c s frame).2.2 := by
  cases frame with
  | log r => exact .log r hread
  | stats x => exact .stats x hread
  | other => exact .ignored type hread
  | response r =>
    rw [dispatch, Correlator.resolve]
    cases hpending : c.isPending r.id with
    | true => exact .resolved r hread hpending
    | false => exact .unmatched r hread hpending

/-- **Every text lands.** -/
theorem lands_route (text : String) (c : Correlator) (s : σ) :
    Lands text c s (route text c s).1 (route text c s).2.1 (route text c s).2.2 := by
  unfold route
  cases hparse : Json.parse text with
  | none => exact .malformed (by rw [read?, hparse, Option.bind_none])
  | some document =>
    dsimp only
    cases hframe : ofJson document with
    | error e => exact .malformed (by rw [read?, hparse, Option.bind_some, hframe]; rfl)
    | ok frame => exact lands_dispatch (by rw [read?, hparse, Option.bind_some, hframe]; rfl) _ c s

/-! ## 2. What the answer says -/

variable {text : String} {c c' : Correlator} {s s' : σ} {answer : Routed}

theorem Lands.log_iff (h : Lands text c s answer c' s') :
    answer = .log ↔ ∃ r, read? text = some (.log r) := by
  cases h with
  | log r hread | stats x hread | resolved r hread | unmatched r hread | ignored type hread
  | malformed hread => simp [hread]

theorem Lands.stats_iff (h : Lands text c s answer c' s') :
    answer = .stats ↔ ∃ x, read? text = some (.stats x) := by
  cases h with
  | log r hread | stats x hread | resolved r hread | unmatched r hread | ignored type hread
  | malformed hread => simp [hread]

theorem Lands.response_iff (h : Lands text c s answer c' s') :
    (∃ id, answer = .resolved id ∨ answer = .unmatched id) ↔ ∃ r, read? text = some (.response r) := by
  cases h with
  | log r hread | stats x hread | resolved r hread | unmatched r hread | ignored type hread
  | malformed hread => simp [hread]

theorem Lands.malformed_iff (h : Lands text c s answer c' s') : answer = .malformed ↔ read? text = none := by
  cases h with
  | log r hread | stats x hread | resolved r hread | unmatched r hread | ignored type hread
  | malformed hread => simp [hread]

/-- **A malformed text is as if it had not come.** -/
theorem Lands.unchanged_of_malformed (h : Lands text c s answer c' s') (hanswer : answer = .malformed) :
    c' = c ∧ s' = s := by
  cases h with
  | malformed hread => exact ⟨rfl, rfl⟩
  | log | stats | resolved | unmatched | ignored => exact absurd hanswer (by simp)

theorem Lands.sink_eq (h : Lands text c s answer c' s') : s' = ((read? text).map (into s)).getD s := by
  cases h with
  | log r hread | stats x hread | resolved r hread | unmatched r hread | ignored type hread
  | malformed hread =>
    rw [hread]
    rfl

/-- **Routing touches the sink exactly as the frame says**, and a malformed text does not. -/
theorem route_sink (text : String) (c : Correlator) (s : σ) :
    (route text c s).2.2 = ((read? text).map (into s)).getD s := (lands_route text c s).sink_eq

theorem Lands.answer_response {r : Response} (h : Lands text c s answer c' s')
    (hread : read? text = some (.response r)) :
    answer = if c.isPending r.id then .resolved r.id else .unmatched r.id := by
  cases h with
  | resolved r' hread' hpending =>
    obtain rfl : r = r' := by simpa [hread] using hread'
    rw [if_pos hpending]
  | unmatched r' hread' hpending =>
    obtain rfl : r = r' := by simpa [hread] using hread'
    rw [hpending]
    rfl
  | log r' hread' | stats x hread' | ignored type hread' | malformed hread' => simp [hread] at hread'

theorem Lands.table_response {r : Response} (h : Lands text c s answer c' s')
    (hread : read? text = some (.response r)) : c' = (c.resolve r).2 := by
  cases h with
  | resolved r' hread' hpending =>
    obtain rfl : r = r' := by simpa [hread] using hread'
    rw [Correlator.resolve, if_pos hpending]
  | unmatched r' hread' hpending =>
    obtain rfl : r = r' := by simpa [hread] using hread'
    rw [Correlator.resolve, hpending]
    rfl
  | log r' hread' | stats x hread' | ignored type hread' | malformed hread' => simp [hread] at hread'

/-- **What became of a response** says whether somebody waited for it. -/
theorem route_response {text : String} {r : Response} (h : read? text = some (.response r))
    (c : Correlator) (s : σ) :
    (route text c s).1 = if c.isPending r.id then .resolved r.id else .unmatched r.id :=
  (lands_route text c s).answer_response h

end Frame
end LiveLog
