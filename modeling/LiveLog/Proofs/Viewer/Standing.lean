import LiveLog.Proofs.Connection.Retry
import LiveLog.Proofs.Json.Number
import LiveLog.Proofs.Viewer.Stimulus
import Mathlib.Data.List.Basic

/-!
# What a viewer says about the connection

A viewer keeps three things about its connection: the state that was published last, the attempt that is
coming, and by its messages whether something was lost. Each has a rule of its own for when it is set
and when it is forgotten, and they are set in the same handlers, one after another. Here each is
compared with the events alone: with the last state among them, with the last announcement of a retry
(`Awaited`), and with the places where an open state is followed by a loss (`losses`).

A viewer does more than listen. So this is about runs in which anything may come between two events of the
connection: nothing but these events touches the first two (`abreast_of_no_event`), and for the messages and
the jobs what is counted is what each event brought up as it came (`Report`).
-/

namespace LiveLog

/-! ## 1. Lists that grow at the end -/

theorem zip_tail_concat {α : Type} (l : List α) (a : α) :
    (l ++ [a]).zip (l ++ [a]).tail = l.zip l.tail ++ (l.getLast?.map fun b => (b, a)).toList := by
  induction l with
  | nil => rfl
  | cons b rest ih =>
    cases rest with
    | nil => rfl
    | cons c rest =>
      have hfirst : (b :: c :: rest ++ [a]).zip (b :: c :: rest ++ [a]).tail
          = (b, c) :: (c :: rest ++ [a]).zip (c :: rest ++ [a]).tail := rfl
      rw [hfirst, ih, List.getLast?_cons_cons]
      rfl

/-! ## 2. Events -/

/-- **How often an open connection was lost**: how often open is immediately followed by closed or errored. -/
def losses (states : List ConnectionState) : Nat :=
  (states.zip states.tail).countP fun p => p.1 = .open && (p.2 = .closed || p.2 = .errored)

theorem losses_concat (states : List ConnectionState) (s : ConnectionState) :
    losses (states ++ [s]) = losses states +
      if states.getLast? = some .open ∧ (s = .closed ∨ s = .errored) then 1 else 0 := by
  unfold losses
  rw [zip_tail_concat, List.countP_append]
  cases states.getLast? with
  | none => simp
  | some last => simp [List.countP_cons]

example : losses [.connecting, .open, .errored, .closed, .connecting, .open, .closed] = 2 := by decide

namespace TransportEvent

/-- Whether an event is an announcement, an open connection, or the end of all attempts: what makes an
    announcement before it meaningless. -/
def overrules (e : TransportEvent) : Bool :=
  e.isRetry || e = .stateChanged .open || e = .stateChanged .failed

/-- **The retry that was announced last**, unless the connection was opened or given up since then. -/
def Awaited (es : List TransportEvent) (attempt most : Nat) : Prop :=
  ∃ before delay after, es = before ++ .reconnectScheduled attempt most delay :: after ∧
    ∀ e ∈ after, e.overrules = false

variable {attempt most : Nat}

theorem not_awaited_nil : ¬ Awaited [] attempt most := by
  rintro ⟨before, delay, after, hsplit, -⟩
  exact absurd hsplit (by simp)

theorem awaited_concat {es : List TransportEvent} {e : TransportEvent} :
    Awaited (es ++ [e]) attempt most ↔
      (∃ delay, e = .reconnectScheduled attempt most delay) ∨ e.overrules = false ∧ Awaited es attempt most := by
  constructor
  · rintro ⟨before, delay, after, hsplit, hafter⟩
    rcases List.eq_nil_or_concat' after with rfl | ⟨after, last, rfl⟩
    · obtain ⟨-, rfl⟩ := List.append_singleton_inj.mp hsplit
      exact Or.inl ⟨delay, rfl⟩
    · rw [← List.cons_append, ← List.append_assoc] at hsplit
      obtain ⟨rfl, rfl⟩ := List.append_singleton_inj.mp hsplit
      refine Or.inr ⟨hafter e (by simp), before, delay, after, rfl, ?_⟩
      intro f hf
      exact hafter f (List.mem_append_left _ hf)
  · rintro (⟨delay, rfl⟩ | ⟨he, before, delay, after, rfl, hafter⟩)
    · exact ⟨es, delay, [], rfl, by simp⟩
    · refine ⟨before, delay, after ++ [e], by simp, ?_⟩
      intro f hf
      rcases List.mem_append.mp hf with hf | hf
      · exact hafter f hf
      · rw [List.mem_singleton.mp hf]
        exact he

end TransportEvent

open TransportEvent

/-! ## 3. The label -/

/-- What is read while a retry is coming. -/
def reconnectingLabel (attempt most : Nat) : String :=
  "Reconnecting... (" ++ toString attempt ++ "/" ++ toString most ++ ")"

theorem slash_not_mem_toString (n : Nat) : '/' ∉ (toString n).toList := by
  rw [Nat.toString_eq_ofList_toDigits, String.toList_ofList]
  intro hslash
  exact absurd (Nat.isDigit_of_mem_toDigits (by decide) (by decide) hslash) (by decide)

theorem toList_toString_injective {m n : Nat} (h : (toString m).toList = (toString n).toList) : m = n := by
  rw [← NumberText.number_toString m, h, NumberText.number_toString]

theorem takeWhile_toString (n : Nat) (rest : List Char) :
    ((toString n).toList ++ '/' :: rest).takeWhile (· ≠ '/') = (toString n).toList := by
  rw [List.takeWhile_append_of_pos]
  · simp
  · intro c hc
    rw [decide_eq_true_iff]
    rintro rfl
    exact slash_not_mem_toString n hc

theorem toList_reconnectingLabel (attempt most : Nat) : (reconnectingLabel attempt most).toList
    = "Reconnecting... (".toList ++ ((toString attempt).toList ++ '/' :: ((toString most).toList ++ [')'])) := by
  have hstroke : "/".toList = ['/'] := rfl
  have hclose : ")".toList = [')'] := rfl
  unfold reconnectingLabel
  rw [String.toList_append, String.toList_append, String.toList_append, String.toList_append, hstroke, hclose,
    List.append_assoc, List.append_assoc, List.append_assoc, List.singleton_append]

theorem reconnectingLabel_injective {attempt most attempt' most' : Nat}
    (h : reconnectingLabel attempt most = reconnectingLabel attempt' most') :
    attempt = attempt' ∧ most = most' := by
  have hchars : (reconnectingLabel attempt most).toList = (reconnectingLabel attempt' most').toList := by
    rw [h]
  rw [toList_reconnectingLabel, toList_reconnectingLabel, List.append_cancel_left_eq] at hchars
  -- Digits end at the stroke, so the first number can be told from the second.
  have hattempt : (toString attempt).toList = (toString attempt').toList := by
    rw [← takeWhile_toString attempt, hchars, takeWhile_toString]
  rw [hattempt, List.append_cancel_left_eq, List.cons.injEq, List.append_cancel_right_eq] at hchars
  exact ⟨toList_toString_injective hattempt, toList_toString_injective hchars.2⟩

theorem label_ne_reconnectingLabel (s : ConnectionState) (attempt most : Nat) :
    s.label ≠ reconnectingLabel attempt most := by
  intro heq
  have hhead : s.label.toList.head? = some 'R' := by
    rw [heq, toList_reconnectingLabel]
    rfl
  cases s <;> exact absurd hhead (by decide)

theorem ConnectionState.isOpen_iff {s : ConnectionState} : s.isOpen = true ↔ s = .open := by
  rw [isOpen, beq_iff_eq]

theorem ViewerState.connectionLabel_eq_iff (s : ViewerState) (attempt most : Nat) :
    s.connectionLabel = reconnectingLabel attempt most ↔
      s.connection ≠ .open ∧ s.reconnect = some (attempt, most) := by
  have hpending : s.reconnecting? = some (attempt, most) ↔
      s.connection ≠ .open ∧ s.reconnect = some (attempt, most) := by
    unfold reconnecting?
    split
    case isTrue h => simp [ConnectionState.isOpen_iff.mp h]
    case isFalse h => simp [mt ConnectionState.isOpen_iff.mpr h]
  rw [← hpending, connectionLabel]
  split
  case h_1 attempt' most' heq =>
    rw [heq]
    constructor
    · intro hlabel
      obtain ⟨rfl, rfl⟩ := reconnectingLabel_injective hlabel
      rfl
    · intro hsome
      obtain ⟨rfl, rfl⟩ := Prod.mk.inj (Option.some.inj hsome)
      rfl
  case h_2 heq =>
    rw [heq]
    constructor
    · intro hlabel
      exact absurd hlabel (label_ne_reconnectingLabel _ _ _)
    · intro hnone
      exact absurd hnone (by simp)

/-! ## 4. Reports -/

/-- The event of the connection that a stimulus is. -/
def Stimulus.event? : Stimulus → Option TransportEvent
  | .transport e => some e
  | _ => none

/-- The events of the connection in a run. -/
def eventsOf (run : List (Duration × Stimulus)) : List TransportEvent := run.filterMap (·.2.event?)

/-- **What an event of the connection brought up**: the jobs that it started and the messages that it put at
    the end of the queue, beside the level that was chosen when it came. -/
structure Report where
  event : TransportEvent
  level : Option String
  jobs : List Job
  messages : List Notification

/-- The job that asks for the level of a report, or else for so many records from the newest on. -/
def Report.load (r : Report) (limit : Nat) : Job :=
  match r.level with
  | some level => { operation := .fetchLogsByLevel level }
  | none => { operation := .fetchLogs limit 0 }

/-- Whether a message tells that the connection was lost. -/
def Notification.isLoss (n : Notification) : Bool := n.kind = .warning && n.message = "Connection lost"

namespace Viewer

def report (v : Viewer) (now : Duration) (e : TransportEvent) : Report where
  event := e
  level := v.state.level
  jobs := (v.handleTransport now e).2
  messages := (v.handleTransport now e).1.state.notifications.items.drop v.state.notifications.items.length

/-- **The reports of the events in a run**, in their order. -/
def reports (v : Viewer) : List (Duration × Stimulus) → List Report
  | [] => []
  | x :: rest => (x.2.event?.map (v.report x.1)).toList ++ reports (v.react x.1 x.2).1 rest

theorem reports_append (v : Viewer) (first second : List (Duration × Stimulus)) :
    v.reports (first ++ second) = v.reports first ++ (v.live first).reports second := by
  induction first generalizing v with
  | nil => rfl
  | cons x rest ih =>
    rw [List.cons_append, reports, reports, ih, List.append_assoc]
    rfl

theorem reports_concat (v : Viewer) (run : List (Duration × Stimulus)) (x : Duration × Stimulus) :
    v.reports (run ++ [x]) = v.reports run ++ (x.2.event?.map ((v.live run).report x.1)).toList := by
  rw [reports_append, reports, reports, List.append_nil]

theorem map_event_reports (v : Viewer) (run : List (Duration × Stimulus)) :
    (v.reports run).map (·.event) = eventsOf run := by
  induction run generalizing v with
  | nil => rfl
  | cons x rest ih =>
    rw [reports, List.map_append, ih, eventsOf, eventsOf, List.filterMap_cons]
    cases x.2.event? <;> rfl

/-! ## 5. One event -/

theorem state_handleFrame (v : Viewer) (text : String) :
    ∃ scroll stale, (v.handleFrame text).state = { v.state with scroll, stale } := by
  obtain ⟨scroll, hscroll⟩ := v.state.recordArrived_eq
    (Frame.route text v.correlator v.log).2.2.newestIsVisible
  simp only [handleFrame, hscroll]
  split <;> split <;> exact ⟨_, _, rfl⟩

theorem state_handleTransport_stateChanged (v : Viewer) (now : Duration) (c : ConnectionState) :
    ∃ notifications stale, (v.handleTransport now (.stateChanged c)).1.state =
      { v.state.setConnection c with notifications, stale } := by
  cases c with
  | connecting | «open» | failed => exact ⟨_, _, rfl⟩
  | closed | errored =>
    simp only [handleTransport]
    split <;> exact ⟨_, _, rfl⟩

/-- **The log is loaded when the connection was opened or given up**, and at no other event. -/
theorem jobs_report (v : Viewer) (now : Duration) (e : TransportEvent) :
    (v.report now e).jobs = if e = .stateChanged .open ∨ e = .stateChanged .failed
      then [(v.report now e).load v.settings.snapshotLimit] else [] := by
  cases e with
  | frame text | reconnectScheduled attempt most delay => rfl
  | stateChanged c => cases c <;> rfl

/-- What an event puts at the end of the queue. -/
def told (v : Viewer) (now : Duration) : TransportEvent → List Notification
  | .stateChanged .open => [{ kind := .success, message := "Connected", shownAt := now }]
  | .stateChanged .failed =>
    [{ kind := .error, message := "Live updates unavailable, using HTTP", shownAt := now }]
  | .stateChanged .closed | .stateChanged .errored =>
    if v.state.connection = .open then
      [{ kind := .warning, message := "Connection lost", shownAt := now }] else []
  | .stateChanged .connecting | .reconnectScheduled .. | .frame _ => []

/-- An event of the connection removes no message. -/
theorem items_handleTransport (v : Viewer) (now : Duration) (e : TransportEvent) :
    (v.handleTransport now e).1.state.notifications.items = v.state.notifications.items ++ v.told now e := by
  cases e with
  | frame text =>
    obtain ⟨_, _, hstate⟩ := v.state_handleFrame text
    rw [handleTransport, hstate, told, List.append_nil]
  | reconnectScheduled attempt most delay => exact (List.append_nil _).symm
  | stateChanged c =>
    cases c with
    | connecting => exact (List.append_nil _).symm
    | «open» | failed => rfl
    | closed | errored =>
      simp only [handleTransport, told, ConnectionState.isOpen_iff]
      split
      · rfl
      · exact (List.append_nil _).symm

theorem messages_report (v : Viewer) (now : Duration) (e : TransportEvent) :
    (v.report now e).messages = v.told now e := by
  rw [report, items_handleTransport, List.drop_left]

/-- **A loss is told when a connection that was open until then is not**, whatever ended it. -/
theorem countP_isLoss_told (v : Viewer) (now : Duration) (e : TransportEvent) :
    (v.told now e).countP Notification.isLoss =
      if v.state.connection = .open ∧ (e = .stateChanged .closed ∨ e = .stateChanged .errored) then 1 else 0 := by
  cases e with
  | frame text | reconnectScheduled attempt most delay => simp [told]
  | stateChanged c =>
    cases c with
    | connecting | «open» | failed => simp [told, Notification.isLoss]
    | closed | errored =>
      rw [told]
      split
      case isTrue hopen => simp [hopen, Notification.isLoss]
      case isFalse hnot => simp [hnot]

end Viewer

/-! ## 6. Abreast of the events -/

/-- **The connection of a viewer, as the events tell it.** -/
structure Abreast (es : List TransportEvent) (s : ViewerState) : Prop where
  connection : s.connection = (states es).getLast?.getD .connecting
  reconnect : ∀ attempt most, s.reconnect = some (attempt, most) ↔ Awaited es attempt most

namespace Abreast

variable {es : List TransportEvent} {s t : ViewerState}

theorem congr (h : Abreast es s) (hconnection : t.connection = s.connection)
    (hreconnect : t.reconnect = s.reconnect) : Abreast es t := by
  refine ⟨?_, ?_⟩
  · rw [hconnection]
    exact h.connection
  · intro attempt most
    rw [hreconnect]
    exact h.reconnect attempt most

theorem isOpen_iff (h : Abreast es s) : s.connection = .open ↔ (states es).getLast? = some .open := by
  rw [h.connection]
  cases (states es).getLast? <;> simp

theorem setReconnect (h : Abreast es s) (attempt most : Nat) (delay : Duration) :
    Abreast (es ++ [.reconnectScheduled attempt most delay]) (s.setReconnect attempt most) := by
  refine ⟨?_, ?_⟩
  · rw [getLast?_states_concat]
    exact h.connection
  · intro attempt' most'
    simp [ViewerState.setReconnect, awaited_concat, overrules, isRetry]

theorem setConnection (h : Abreast es s) (c : ConnectionState) :
    Abreast (es ++ [.stateChanged c]) (s.setConnection c) := by
  refine ⟨?_, ?_⟩
  · rw [getLast?_states_concat]
    rfl
  · intro attempt most
    have hkept := h.reconnect attempt most
    cases c <;>
      simp [ViewerState.setConnection, ConnectionState.isOpen, ConnectionState.isTerminal, awaited_concat,
        overrules, isRetry, hkept]

theorem frame (h : Abreast es s) (text : String) : Abreast (es ++ [.frame text]) s := by
  refine ⟨?_, ?_⟩
  · rw [getLast?_states_concat]
    exact h.connection
  · intro attempt most
    rw [h.reconnect, awaited_concat]
    simp [overrules, isRetry]

end Abreast

namespace Viewer

theorem abreast_new (settings : Settings) : Abreast [] (Viewer.new settings).state := by
  refine ⟨rfl, ?_⟩
  intro attempt most
  exact iff_of_false (by simp [new, ViewerState.new]) not_awaited_nil

theorem abreast_handleTransport {v : Viewer} {es : List TransportEvent} (h : Abreast es v.state)
    (now : Duration) (e : TransportEvent) : Abreast (es ++ [e]) (v.handleTransport now e).1.state := by
  cases e with
  | frame text =>
    obtain ⟨_, _, hstate⟩ := v.state_handleFrame text
    exact (h.frame text).congr (by rw [handleTransport, hstate]) (by rw [handleTransport, hstate])
  | reconnectScheduled attempt most delay => exact h.setReconnect attempt most delay
  | stateChanged c =>
    obtain ⟨_, _, hstate⟩ := v.state_handleTransport_stateChanged now c
    exact (h.setConnection c).congr (by rw [hstate]) (by rw [hstate])

/-- **Nothing but the events of the connection touches what is known of it.** -/
theorem abreast_of_no_event {v : Viewer} {es : List TransportEvent} (h : Abreast es v.state)
    (now : Duration) {s : Stimulus} (hs : s.event? = none) : Abreast es (v.react now s).1.state := by
  have hsame : (v.react now s).1.state.connection = v.state.connection ∧
      (v.react now s).1.state.reconnect = v.state.reconnect := by
    cases s with
    | transport e => exact absurd hs (by simp [Stimulus.event?])
    | finished how =>
      cases how with
      | logsLoaded records | statsLoaded snapshot | serverCleared => exact ⟨rfl, rfl⟩
      | downloaded path trouble => cases trouble <;> exact ⟨rfl, rfl⟩
      | failed purpose error quiet => cases quiet <;> exact ⟨rfl, rfl⟩
    | action a =>
      cases a with
      | dismiss =>
        simp only [react, handleAction]
        split <;> split <;> exact ⟨rfl, rfl⟩
      | clearServerLogs =>
        simp only [react, handleAction, ViewerState.confirmClear]
        split <;> split <;> exact ⟨rfl, rfl⟩
      | _ => exact ⟨rfl, rfl⟩
    | tick | draw width height | jobsRan correlator => exact ⟨rfl, rfl⟩
  exact h.congr hsame.1 hsame.2

/-! ## 7. Runs -/

theorem eventsOf_concat (run : List (Duration × Stimulus)) (x : Duration × Stimulus) :
    eventsOf (run ++ [x]) = eventsOf run ++ x.2.event?.toList := by
  rw [eventsOf, List.filterMap_append]
  cases hx : x.2.event? <;> simp [eventsOf, hx]

theorem live_concat (v : Viewer) (run : List (Duration × Stimulus)) (x : Duration × Stimulus) :
    v.live (run ++ [x]) = ((v.live run).react x.1 x.2).1 := v.live_append run [x]

theorem react_of_event {s : Stimulus} {e : TransportEvent} (hs : s.event? = some e) (v : Viewer)
    (now : Duration) : v.react now s = v.handleTransport now e := by
  cases s with
  | transport e' =>
    obtain rfl : e' = e := Option.some.inj hs
    rfl
  | _ => exact absurd hs (by simp [Stimulus.event?])

theorem abreast_live (settings : Settings) (run : List (Duration × Stimulus)) :
    Abreast (eventsOf run) ((Viewer.new settings).live run).state := by
  induction run using List.reverseRecOn with
  | nil => exact abreast_new settings
  | append_singleton run x ih =>
    rw [live_concat, eventsOf_concat]
    cases hx : x.2.event? with
    | none =>
      rw [Option.toList_none, List.append_nil]
      exact abreast_of_no_event ih x.1 hx
    | some e =>
      rw [react_of_event hx]
      exact abreast_handleTransport ih x.1 e

theorem settings_react (v : Viewer) (now : Duration) (s : Stimulus) :
    (v.react now s).1.settings = v.settings := by
  cases s with
  | transport e =>
    cases e with
    | frame text | reconnectScheduled attempt most delay => rfl
    | stateChanged c =>
      cases c with
      | connecting | «open» | failed => rfl
      | closed | errored =>
        simp only [react, handleTransport]
        split <;> rfl
  | finished how =>
    cases how with
    | logsLoaded records | statsLoaded snapshot | serverCleared => rfl
    | downloaded path trouble => cases trouble <;> rfl
    | failed purpose error quiet => cases quiet <;> rfl
  | action a =>
    cases a with
    | dismiss =>
      simp only [react, handleAction]
      split <;> split <;> rfl
    | _ => rfl
  | tick | draw width height | jobsRan correlator => rfl

theorem settings_live (v : Viewer) (run : List (Duration × Stimulus)) : (v.live run).settings = v.settings := by
  induction run using List.reverseRecOn with
  | nil => rfl
  | append_singleton run x ih => rw [live_concat, settings_react, ih]

theorem jobs_of_mem_reports {v : Viewer} {run : List (Duration × Stimulus)} :
    ∀ r ∈ v.reports run, r.jobs = if r.event = .stateChanged .open ∨ r.event = .stateChanged .failed
      then [r.load v.settings.snapshotLimit] else [] := by
  induction run using List.reverseRecOn with
  | nil =>
    intro r hr
    exact absurd hr (by simp [reports])
  | append_singleton run x ih =>
    intro r hr
    rw [reports_concat] at hr
    rcases List.mem_append.mp hr with hbefore | hlast
    · exact ih r hbefore
    · obtain ⟨e, -, rfl⟩ : ∃ e, x.2.event? = some e ∧ (v.live run).report x.1 e = r := by simpa using hlast
      rw [jobs_report, settings_live]
      rfl

/-- The reports that start a job are as many as the events that ask for one. -/
theorem length_flatMap_jobs {rs : List Report} {limit : Nat} (h : ∀ r ∈ rs, r.jobs =
    if r.event = .stateChanged .open ∨ r.event = .stateChanged .failed then [r.load limit] else []) :
    (rs.flatMap (·.jobs)).length
      = (rs.map (·.event)).count (.stateChanged .open) + (rs.map (·.event)).count (.stateChanged .failed) := by
  induction rs with
  | nil => rfl
  | cons r rest ih =>
    have hrest := ih fun r hr => h r (List.mem_cons_of_mem _ hr)
    have hfirst : r.jobs.length = (if r.event == .stateChanged .open then 1 else 0)
        + (if r.event == .stateChanged .failed then 1 else 0) := by
      rw [h r List.mem_cons_self]
      by_cases hopen : r.event = .stateChanged .open
      · simp [hopen]
      · by_cases hfailed : r.event = .stateChanged .failed <;> simp [hopen, hfailed]
    rw [List.flatMap_cons, List.length_append, hrest, hfirst, List.map_cons, List.count_cons, List.count_cons]
    omega

/-- **As many losses are told as there are** among the published states. -/
theorem countP_isLoss_reports (settings : Settings) (run : List (Duration × Stimulus)) :
    (((Viewer.new settings).reports run).flatMap (·.messages)).countP Notification.isLoss
      = losses (states (eventsOf run)) := by
  induction run using List.reverseRecOn with
  | nil => rfl
  | append_singleton run x ih =>
    rw [reports_concat, eventsOf_concat, List.flatMap_append, List.countP_append, ih]
    cases x.2.event? with
    | none => simp
    | some e =>
      have hopen := (abreast_live settings run).isOpen_iff
      rw [Option.map_some, Option.toList_some, Option.toList_some, List.flatMap_singleton, states_concat,
        messages_report, countP_isLoss_told]
      simp only [hopen]
      cases e with
      | stateChanged c =>
        rw [state?, Option.toList_some, losses_concat]
        simp
      | frame text | reconnectScheduled attempt most delay => simp [state?]

/-- Where nothing but the connection speaks, the messages shown are the messages that were put. -/
theorem items_live_of_events (settings : Settings) {run : List (Duration × Stimulus)}
    (hrun : ∀ x ∈ run, x.2.event? ≠ none) :
    ((Viewer.new settings).live run).state.notifications.items
      = ((Viewer.new settings).reports run).flatMap (·.messages) := by
  induction run using List.reverseRecOn with
  | nil => rfl
  | append_singleton run x ih =>
    obtain ⟨e, hx⟩ := Option.ne_none_iff_exists'.mp (hrun x (by simp))
    have hrest : ∀ y ∈ run, y.2.event? ≠ none := fun y hy => hrun y (List.mem_append_left _ hy)
    rw [live_concat, react_of_event hx, items_handleTransport, ih hrest, reports_concat, hx,
      List.flatMap_append, Option.map_some, Option.toList_some, List.flatMap_singleton, messages_report]

/-- **What a viewer says about the connection is what its events say**, over every run from the start.
    The connection is in the state that was published last. A retry is read of exactly while one is awaited
    and the connection is not open. The log is loaded once for each time that the connection was opened or given
    up: the level that was chosen then, or else the newest records. And a loss is told once for each
    time that open was followed by closed or errored. -/
theorem connection_bookkeeping (settings : Settings) (run : List (Duration × Stimulus)) :
    let es := eventsOf run
    let v := (Viewer.new settings).live run
    let rs := (Viewer.new settings).reports run
    v.state.connection = (states es).getLast?.getD .connecting ∧
    (∀ attempt most, v.state.connectionLabel = reconnectingLabel attempt most ↔
      v.state.connection ≠ .open ∧ Awaited es attempt most) ∧
    rs.map (·.event) = es ∧
    (rs.flatMap (·.jobs)).length = es.count (.stateChanged .open) + es.count (.stateChanged .failed) ∧
    (∀ r ∈ rs, r.jobs = if r.event = .stateChanged .open ∨ r.event = .stateChanged .failed
      then [r.load settings.snapshotLimit] else []) ∧
    (rs.flatMap (·.messages)).countP Notification.isLoss = losses (states es) ∧
    ((∀ x ∈ run, x.2.event? ≠ none) → v.state.notifications.items = rs.flatMap (·.messages)) := by
  intro es v rs
  have habreast : Abreast es v.state := abreast_live settings run
  have hevents : rs.map (·.event) = es := map_event_reports _ run
  have hjobs : ∀ r ∈ rs, r.jobs = if r.event = .stateChanged .open ∨ r.event = .stateChanged .failed
      then [r.load settings.snapshotLimit] else [] := jobs_of_mem_reports
  refine ⟨habreast.connection, ?_, hevents, ?_, hjobs, countP_isLoss_reports settings run,
    items_live_of_events settings⟩
  · intro attempt most
    rw [v.state.connectionLabel_eq_iff, habreast.reconnect]
  · rw [length_flatMap_jobs hjobs, hevents]

end Viewer
end LiveLog
