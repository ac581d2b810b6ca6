import LiveLog.Proofs.Router.Halves
import LiveLog.Proofs.Viewer.Stimulus

/-!
# No redraw is missed

The screen is drawn again only when the state is marked as stale, and every handler sets the mark for
itself. A handler that changed something and forgot the mark would leave an old picture on the screen.

Actions and ends of jobs set the mark before they look at anything, and so do changes of the connection. What is
left is a frame, which sets it by the answer of the router. So the answer has to agree with what the
router did to the log: it names a push exactly if one entered (`Frame.Lands`). Nothing takes the mark
away but drawing. Hence as long as a viewer is not marked, it is what it was when it was drawn
(`stale_or_still_live`), and drawing it again would give the picture that is on the screen.
-/

namespace LiveLog

/-- Whether a stimulus draws the screen. -/
def Stimulus.isDraw : Stimulus → Bool
  | .draw _ _ => true
  | _ => false

namespace Viewer

/-- **Neither the state nor the log** of a viewer `w` differs from that of a viewer `v`, and both run in one time
    zone. -/
structure Still (v w : Viewer) : Prop where
  state : w.state = v.state
  log : w.log = v.log
  zone : w.zone = v.zone

/-! ## 1. What sets the mark -/

theorem stale_handleFinished (v : Viewer) (now : Duration) (how : Finished) :
    (v.handleFinished now how).state.stale = true := by
  cases how with
  | logsLoaded records | statsLoaded snapshot | serverCleared => rfl
  | downloaded path trouble => cases trouble <;> rfl
  | failed purpose error quiet => cases quiet <;> rfl

theorem stale_confirmClear {s : ViewerState} (h : s.stale = true) (now : Duration) :
    (s.confirmClear now).2.stale = true := by
  unfold ViewerState.confirmClear
  dsimp only
  split
  · exact h
  · rfl

theorem stale_handleAction (v : Viewer) (now : Duration) (a : Action) :
    (v.handleAction now a).1.state.stale = true := by
  cases a with
  | dismiss =>
    unfold handleAction
    dsimp only
    split <;> split <;> rfl
  | clearServerLogs =>
    have htouched : v.state.touch.stale = true := rfl
    exact stale_confirmClear htouched now
  | _ => rfl

/-- **A frame sets the mark if it pushes something**, and otherwise touches nothing but the requests. -/
theorem handleFrame_cases_push (v : Viewer) (text : String) :
    ((Frame.read? text).any Frame.isPush = true ∧ (v.handleFrame text).state.stale = true) ∨
    ((Frame.read? text).any Frame.isPush = false ∧ ∃ correlator, v.handleFrame text = { v with correlator }) := by
  have hlands := Frame.lands_route text v.correlator v.log
  unfold handleFrame
  revert hlands
  generalize Frame.route text v.correlator v.log = routed
  obtain ⟨answer, correlator, log⟩ := routed
  intro hlands
  cases hlands with
  | log r hread | stats x hread => exact Or.inl ⟨by rw [hread]; rfl, rfl⟩
  | resolved r hread hpending | unmatched r hread hpending | ignored type hread | malformed hread =>
    exact Or.inr ⟨by rw [hread]; rfl, _, rfl⟩

theorem handleFrame_of_not_push {text : String} (h : (Frame.read? text).any Frame.isPush = false)
    (v : Viewer) : ∃ correlator, v.handleFrame text = { v with correlator } := by
  rcases v.handleFrame_cases_push text with ⟨hpush, -⟩ | ⟨-, hsame⟩
  · exact absurd hpush (by simp [h])
  · exact hsame

theorem stale_or_still_handleFrame (v : Viewer) (text : String) :
    (v.handleFrame text).state.stale = true ∨ Still v (v.handleFrame text) := by
  rcases v.handleFrame_cases_push text with ⟨-, hstale⟩ | ⟨-, correlator, hsame⟩
  · exact Or.inl hstale
  · right
    rw [hsame]
    exact ⟨rfl, rfl, rfl⟩

theorem stale_or_still_handleTransport (v : Viewer) (now : Duration) (event : TransportEvent) :
    (v.handleTransport now event).1.state.stale = true ∨ Still v (v.handleTransport now event).1 := by
  cases event with
  | frame text => exact v.stale_or_still_handleFrame text
  | reconnectScheduled attempt most delay => exact Or.inl rfl
  | stateChanged c =>
    left
    cases c with
    | connecting | «open» | failed => rfl
    | closed | errored =>
      simp only [handleTransport]
      split <;> rfl

/-- The passing of time sets the mark if a message went. -/
theorem stale_or_still_tick (v : Viewer) (now : Duration) :
    (v.tick now).state.stale = true ∨ Still v (v.tick now) := by
  have htick : (v.tick now).state = { v.state with
      notifications := (v.state.notifications.expire now).2
      stale := v.state.stale || (v.state.notifications.expire now).1 } := rfl
  cases hremoved : (v.state.notifications.expire now).1 with
  | true =>
    left
    rw [htick, hremoved, Bool.or_true]
  | false =>
    -- As many messages as before are the same messages.
    have hlength : (v.state.notifications.items.filter
        (·.isCurrent v.state.notifications.lifetime now)).length = v.state.notifications.items.length := by
      simpa [Notifications.expire] using hremoved
    have hkept : (v.state.notifications.expire now).2 = v.state.notifications := by
      rw [Notifications.expire]
      dsimp only
      rw [List.filter_eq_self.mpr (List.length_filter_eq_length_iff.mp hlength)]
    right
    refine ⟨?_, rfl, rfl⟩
    rw [htick, hremoved, hkept, Bool.or_false]

/-! ## 2. Runs -/

theorem stale_or_still_react (v : Viewer) (now : Duration) {s : Stimulus} (hs : s.isDraw = false) :
    (v.react now s).1.state.stale = true ∨ Still v (v.react now s).1 := by
  cases s with
  | transport event => exact v.stale_or_still_handleTransport now event
  | finished how => exact Or.inl (v.stale_handleFinished now how)
  | action a => exact Or.inl (v.stale_handleAction now a)
  | tick => exact v.stale_or_still_tick now
  | draw width height => exact absurd hs (by simp [Stimulus.isDraw])
  | jobsRan correlator => exact Or.inr ⟨rfl, rfl, rfl⟩

/-- **Until it is drawn, a viewer is marked or the same**, after any run. -/
theorem stale_or_still_live (v : Viewer) {run : List (Duration × Stimulus)}
    (hrun : ∀ x ∈ run, x.2.isDraw = false) : (v.live run).state.stale = true ∨ Still v (v.live run) := by
  induction run generalizing v with
  | nil => exact Or.inr ⟨rfl, rfl, rfl⟩
  | cons x rest ih =>
    have hrest : ∀ y ∈ rest, y.2.isDraw = false := fun y hy => hrun y (List.mem_cons_of_mem x hy)
    rw [live_cons]
    rcases ih (v.react x.1 x.2).1 hrest with hstale | hstill
    · exact Or.inl hstale
    · rcases v.stale_or_still_react x.1 (hrun x List.mem_cons_self) with hstale | hfirst
      · left
        rw [hstill.state]
        exact hstale
      · right
        exact ⟨hstill.state.trans hfirst.state, hstill.log.trans hfirst.log, hstill.zone.trans hfirst.zone⟩

/-! ## 3. The picture -/

theorem Still.picture_eq {v w : Viewer} (h : Still v w) (width height : Nat) :
    (w.render width height).1 = (v.render width height).1 := by
  obtain ⟨settings, state, log, correlator, zone⟩ := v
  obtain ⟨settings', state', log', correlator', zone'⟩ := w
  obtain rfl : state' = state := h.state
  obtain rfl : log' = log := h.log
  obtain rfl : zone' = zone := h.zone
  rfl

theorem settleScroll_settleScroll (s : ViewerState) (visible rows : Nat) :
    (s.settleScroll visible rows).settleScroll visible rows = s.settleScroll visible rows := by
  cases hfollowing : s.following with
  | true => simp [ViewerState.settleScroll, hfollowing]
  | false => simp [ViewerState.settleScroll, hfollowing]

/-- A table that was scrolled into a screen stays where it is. -/
theorem settle_settle (v : Viewer) (screen : Rect) : (v.settle screen).settle screen = v.settle screen := by
  let rows := tableRows (v.layout screen).table
  have hagain : (v.settle screen).settle screen = { v with
      state := (v.state.settleScroll v.log.visibleCount rows).settleScroll v.log.visibleCount rows } := rfl
  rw [hagain, settleScroll_settleScroll]
  rfl

/-- Drawing again shows the same picture. -/
theorem picture_render (v : Viewer) (width height : Nat) :
    ((v.render width height).2.render width height).1 = (v.render width height).1 := by
  let screen := Rect.ofSize width height
  have hdrawn : ((v.render width height).2.render width height).1
      = (Canvas.blank width height).paint (((v.settle screen).settle screen).drawAll screen) := rfl
  rw [hdrawn, settle_settle]
  rfl

/-- **No redraw is missed.** Whatever event of the connection, end of a job or action a viewer meets, if it is
    not marked as stale afterwards then neither its state nor its log has changed. So once it was drawn,
    the picture on the screen is right as long as there is no mark: whatever happens meanwhile, drawing
    it again would come to the same picture. -/
theorem no_redraw_is_missed (v : Viewer) (now : Duration) :
    (∀ event, (v.handleTransport now event).1.state.stale = false →
      Still v (v.handleTransport now event).1) ∧
    (∀ how, (v.handleFinished now how).state.stale = false → Still v (v.handleFinished now how)) ∧
    (∀ a, (v.handleAction now a).1.state.stale = false → Still v (v.handleAction now a).1) ∧
    ∀ width height, ∀ run : List (Duration × Stimulus), (∀ x ∈ run, x.2.isDraw = false) →
      let w := (v.render width height).2.live run
      w.state.stale = false → (w.render width height).1 = (v.render width height).1 := by
  refine ⟨?_, ?_, ?_, ?_⟩
  · intro event hunmarked
    rcases v.stale_or_still_handleTransport now event with hstale | hstill
    · exact absurd hstale (by simp [hunmarked])
    · exact hstill
  · intro how hunmarked
    exact absurd (v.stale_handleFinished now how) (by simp [hunmarked])
  · intro a hunmarked
    exact absurd (v.stale_handleAction now a) (by simp [hunmarked])
  · intro width height run hrun w hunmarked
    rcases (v.render width height).2.stale_or_still_live hrun with hstale | hstill
    · exact absurd hstale (by simp [w, hunmarked])
    · exact (hstill.picture_eq width height).trans (v.picture_render width height)

/-- A response that nobody waits for, a text that is no frame and the passing of time leave the picture. -/
theorem no_redraw_is_missed_unanswered :
    let run : List (Duration × Stimulus) := [(.ofMillis 0, .transport (.frame Frame.Sample.response)),
      (.ofMillis 1, .transport (.frame "?")), (.ofMillis 2, .tick)]
    let v := Viewer.new {}
    let w := (v.render 80 24).2.live run
    w.state.stale = false ∧ (w.render 80 24).1 = (v.render 80 24).1 := by
  intro run v w
  have hlive (u : Viewer) (first second : String) :
      u.live [(.ofMillis 0, .transport (.frame first)), (.ofMillis 1, .transport (.frame second)),
        (.ofMillis 2, .tick)] = ((u.handleFrame first).handleFrame second).tick (.ofMillis 2) := rfl
  have hw : w = (((v.render 80 24).2.handleFrame Frame.Sample.response).handleFrame "?").tick (.ofMillis 2) :=
    hlive _ _ _
  have hunmarked : w.state.stale = false := by
    have hresponse : (Frame.read? Frame.Sample.response).any Frame.isPush = false := by
      rw [Frame.Sample.read_response]
      rfl
    have hbroken : (Frame.read? "?").any Frame.isPush = false := by
      rw [Frame.Sample.read_broken]
      rfl
    obtain ⟨first, hfirst⟩ := handleFrame_of_not_push hresponse (v.render 80 24).2
    obtain ⟨second, hsecond⟩ := handleFrame_of_not_push hbroken { (v.render 80 24).2 with correlator := first }
    rw [hw, hfirst, hsecond]
    rfl
  have hrun : ∀ x ∈ run, x.2.isDraw = false := by
    intro x hx
    simp only [run, List.mem_cons, List.not_mem_nil, or_false] at hx
    rcases hx with rfl | rfl | rfl <;> rfl
  obtain ⟨-, -, -, hpicture⟩ := no_redraw_is_missed v (.ofMillis 0)
  exact ⟨hunmarked, hpicture 80 24 run hrun hunmarked⟩

end Viewer
end LiveLog
