import LiveLog.Proofs.Router.Landing
import LiveLog.Proofs.View.Run
import LiveLog.Screen.Viewer

/-!
# Runs of the viewer

The viewer is a loop: something happens, the viewer reacts, and perhaps the screen is drawn. A
**`Stimulus`** is one turn of that loop, whatever caused it, and a run is any list of stimuli, each with
the moment at which it came. Nothing is said about their order. A job may end at any time after it was
started, and between two turns other jobs may run and leave the table of requests as they like.

The log of the viewer has no life of its own: `log_react` says which changes of a view each stimulus
makes, so that a run of the viewer is a run of its log (`log_live`), and what is known of runs of a view
holds of the viewer. The rest of the viewer is the user's: what is no action changes the connection, the
messages and where the log is scrolled to, and nothing else (`state_react_of_not_action`).
-/

namespace LiveLog

/-! ## 1. Stimuli -/

/-- **What the viewer reacts to.** -/
inductive Stimulus where
  | transport (event : TransportEvent)
  /-- A job ended. -/
  | finished (how : Finished)
  | action (a : Action)
  | tick
  /-- The screen is drawn. -/
  | draw (width height : Nat)
  /-- Jobs ran meanwhile; this is the table of requests after them. -/
  | jobsRan (correlator : Correlator)

namespace Stimulus

/-- The frame that arrives. -/
def frame? : Stimulus → Option Frame
  | .transport (.frame text) => Frame.read? text
  | _ => none

/-- The record that is pushed. -/
def pushed? (s : Stimulus) : Option Record :=
  match s.frame? with
  | some (.log r) => some r
  | _ => none

/-- The action of the user. -/
def action? : Stimulus → Option Action
  | .action a => some a
  | _ => none

theorem eq_action {s : Stimulus} {a : Action} (h : s.action? = some a) : s = .action a := by
  cases s with
  | action b => rw [Option.some.inj h]
  | _ => exact absurd h (by simp [action?])

end Stimulus

namespace Viewer

/-- **The reaction to a stimulus**: the viewer after it and the jobs that start. -/
def react (v : Viewer) (now : Duration) : Stimulus → Viewer × List Job
  | .transport event => v.handleTransport now event
  | .finished how => (v.handleFinished now how, [])
  | .action a => v.handleAction now a
  | .tick => (v.tick now, [])
  | .draw width height => ((v.render width height).2, [])
  | .jobsRan correlator => ({ v with correlator }, [])

/-- **The viewer after a run.** -/
def live (v : Viewer) (run : List (Duration × Stimulus)) : Viewer :=
  run.foldl (fun v x => (v.react x.1 x.2).1) v

theorem live_cons (v : Viewer) (x : Duration × Stimulus) (run : List (Duration × Stimulus)) :
    v.live (x :: run) = (v.react x.1 x.2).1.live run := rfl

theorem live_append (v : Viewer) (first second : List (Duration × Stimulus)) :
    v.live (first ++ second) = (v.live first).live second := List.foldl_append

/-! ## 2. What a stimulus does to the log -/

/-- **The changes that a stimulus makes to the log.** -/
def changes (v : Viewer) : Stimulus → List Change
  | .transport (.frame text) =>
    match Frame.read? text with
    | some (.log r) => [.ingest r]
    | some (.stats x) => [.stats x]
    | _ => []
  | .finished (.logsLoaded records) => [.replace records]
  | .finished (.statsLoaded snapshot) => [.stats snapshot]
  | .finished .serverCleared => [.clear]
  | .action .applyFilter => [.filter v.state.acceptSearch.filter]
  | .action .clearFilter => [.filter v.state.clearFilter.filter]
  | .action .cycleLevelFilter => [.filter v.state.cycleLevel.filter]
  | .action .cycleCategoryFilter => [.filter v.state.cycleCategory.filter]
  | .action .clearView => [.clear]
  | _ => []

theorem log_handleFrame (v : Viewer) (text : String) :
    (v.handleFrame text).log = v.log.run (v.changes (.transport (.frame text))) := by
  have hlog : (v.handleFrame text).log = (Frame.route text v.correlator v.log).2.2 := rfl
  rw [hlog, Frame.route_sink, changes]
  cases Frame.read? text with
  | none => rfl
  | some frame => cases frame <;> rfl

theorem log_handleTransport (v : Viewer) (now : Duration) (event : TransportEvent) :
    (v.handleTransport now event).1.log = v.log.run (v.changes (.transport event)) := by
  cases event with
  | frame text => exact log_handleFrame v text
  | reconnectScheduled attempt most delay => rfl
  | stateChanged c =>
    cases c with
    | connecting => rfl
    | «open» => rfl
    | failed => rfl
    | closed | errored =>
      unfold handleTransport
      dsimp only
      split <;> rfl

theorem log_handleFinished (v : Viewer) (now : Duration) (how : Finished) :
    (v.handleFinished now how).log = v.log.run (v.changes (.finished how)) := by
  cases how with
  | logsLoaded records => rfl
  | statsLoaded snapshot => rfl
  | serverCleared => rfl
  | downloaded path trouble => cases trouble <;> rfl
  | failed purpose error quiet => cases quiet <;> rfl

theorem log_handleAction (v : Viewer) (now : Duration) (a : Action) :
    (v.handleAction now a).1.log = v.log.run (v.changes (.action a)) := by
  cases a with
  | dismiss =>
    -- Whether the help or a message goes, the log stays.
    unfold handleAction
    dsimp only
    split <;> split <;> rfl
  | _ => rfl

/-- **A stimulus makes the listed changes to the log and no others.** -/
theorem log_react (v : Viewer) (now : Duration) (s : Stimulus) :
    (v.react now s).1.log = v.log.run (v.changes s) := by
  cases s with
  | transport event => exact log_handleTransport v now event
  | finished how => exact log_handleFinished v now how
  | action a => exact log_handleAction v now a
  | tick => rfl
  | draw width height => rfl
  | jobsRan correlator => rfl

/-- The changes that a run makes to the log, one stimulus after another. -/
def allChanges (v : Viewer) : List (Duration × Stimulus) → List Change
  | [] => []
  | x :: rest => v.changes x.2 ++ allChanges (v.react x.1 x.2).1 rest

/-- **A run of the viewer is a run of its log.** -/
theorem log_live (v : Viewer) (run : List (Duration × Stimulus)) :
    (v.live run).log = v.log.run (v.allChanges run) := by
  induction run generalizing v with
  | nil => rfl
  | cons x rest ih =>
    have happend : v.log.run (v.allChanges (x :: rest))
        = (v.log.run (v.changes x.2)).run (allChanges (v.react x.1 x.2).1 rest) := List.foldl_append
    rw [live_cons, ih, log_react, happend]

end Viewer

/-! ## 3. What a stimulus leaves alone -/

namespace ViewerState

theorem recordArrived_eq (s : ViewerState) (visible : Bool) :
    ∃ scroll, s.recordArrived visible = { s with scroll } := by
  rw [recordArrived]
  split
  · exact ⟨_, rfl⟩
  · exact ⟨s.scroll, rfl⟩

end ViewerState

namespace Viewer

/-- **Nothing but an action touches what the user chose, armed or asked for.** -/
theorem state_react_of_not_action {s : Stimulus} (hs : s.action? = none) (v : Viewer) (now : Duration) :
    ∃ connection reconnect notifications scroll stale, (v.react now s).1.state =
      { v.state with connection, reconnect, notifications, scroll, stale } := by
  cases s with
  | action a => exact absurd hs (by simp [Stimulus.action?])
  | transport event =>
    cases event with
    | frame text =>
      obtain ⟨scroll, hscroll⟩ := v.state.recordArrived_eq
        (Frame.route text v.correlator v.log).2.2.newestIsVisible
      simp only [react, handleTransport, handleFrame, hscroll]
      split <;> split <;> exact ⟨_, _, _, _, _, rfl⟩
    | reconnectScheduled attempt most delay => exact ⟨_, _, _, _, _, rfl⟩
    | stateChanged c =>
      cases c with
      | connecting | «open» | failed => exact ⟨_, _, _, _, _, rfl⟩
      | closed | errored =>
        simp only [react, handleTransport]
        split <;> exact ⟨_, _, _, _, _, rfl⟩
  | finished how =>
    cases how with
    | logsLoaded records | statsLoaded snapshot | serverCleared => exact ⟨_, _, _, _, _, rfl⟩
    | downloaded path trouble => cases trouble <;> exact ⟨_, _, _, _, _, rfl⟩
    | failed purpose error quiet => cases quiet <;> exact ⟨_, _, _, _, _, rfl⟩
  | tick | draw width height | jobsRan correlator => exact ⟨_, _, _, _, _, rfl⟩

end Viewer
end LiveLog
