import LiveLog.Proofs.Viewer.Stimulus

/-!
# Deleting the server's log takes two presses

The viewer can ask the server to delete its log, and this cannot be undone. So the first press of the
deleting key only brings up a warning, and the second one counts only while that warning is still meant:
right after the first one, and within the lifetime of messages.

The guard and the warning are kept in different places. The guard is the moment of the first press, which
any other action erases; the warning is a message in a queue, which leaves it when its time is over or when
the user dismisses it. That they agree is an invariant of runs (`Guarded`): the guard stands exactly if
the last action was a press that did not delete, and until its lifetime is over the warning of that
press is in the queue. Events of the connection, ends of jobs and the passing of time may come in
between as they like, since they leave the guard alone and can only remove what is old.
-/

namespace LiveLog

/-! ## 1. Deeds -/

/-- **What the user did**, with the messages that were shown as it was done and the jobs that it started. -/
structure Deed where
  moment : Duration
  action : Action
  shown : List Notification
  jobs : List Job

namespace Deed

/-- Whether the server is asked to delete its log. -/
def deletes (d : Deed) : Bool := d.jobs.any fun job => job.operation = .clearLogs

/-- Whether this is a press of the deleting key that can be confirmed by the next one. -/
def warns (d : Deed) : Bool := d.action = .clearServerLogs && !d.deletes

/-- The warning that such a press brings up. -/
def warning (d : Deed) : Notification :=
  { kind := .warning, message := ViewerState.clearWarning, shownAt := d.moment }

end Deed

namespace ViewerState

/-- Whether a press at a moment confirms the one before. -/
def isConfirming (s : ViewerState) (now : Duration) : Bool :=
  s.clearArmedAt.any fun armed => now.nanos - armed.nanos < s.notifications.lifetime.nanos

theorem confirmClear_of_isConfirming {s : ViewerState} {now : Duration} (h : s.isConfirming now = true) :
    s.confirmClear now = (true, { s with clearArmedAt := none }) := if_pos h

theorem confirmClear_of_not_isConfirming {s : ViewerState} {now : Duration}
    (h : s.isConfirming now = false) :
    s.confirmClear now = (false, { s.notify .warning clearWarning now with clearArmedAt := some now }) :=
  if_neg (by simpa [isConfirming] using h)

end ViewerState

namespace Viewer

/-- What the user does in one turn. -/
def deed (v : Viewer) (now : Duration) (a : Action) : Deed :=
  { moment := now, action := a, shown := v.state.notifications.items, jobs := (v.handleAction now a).2 }

/-- **The deeds of a run**, in their order. -/
def deeds (v : Viewer) : List (Duration × Stimulus) → List Deed
  | [] => []
  | x :: rest => (x.2.action?.map (v.deed x.1)).toList ++ deeds (v.react x.1 x.2).1 rest

theorem deeds_cons_action (v : Viewer) (now : Duration) (a : Action) (rest : List (Duration × Stimulus)) :
    v.deeds ((now, .action a) :: rest) = v.deed now a :: (v.handleAction now a).1.deeds rest := rfl

theorem deeds_cons_of_not_action (v : Viewer) {x : Duration × Stimulus} (hx : x.2.action? = none)
    (rest : List (Duration × Stimulus)) : v.deeds (x :: rest) = (v.react x.1 x.2).1.deeds rest := by
  rw [deeds, hx]
  rfl

theorem deeds_eq_actions (v : Viewer) (run : List (Duration × Stimulus)) :
    (v.deeds run).map (fun d => (d.moment, d.action))
      = run.filterMap fun x => x.2.action?.map fun a => (x.1, a) := by
  induction run generalizing v with
  | nil => rfl
  | cons x rest ih =>
    rw [List.filterMap_cons, deeds, List.map_append, ih]
    cases x.2.action? <;> rfl

/-! ## 2. What a turn does to the messages -/

/-- **How the queue of messages moves in one turn.** -/
inductive Shifts (now : Duration) (s : Stimulus) (q : Notifications) : Notifications → Prop
  | still : Shifts now s q q
  | push (kind : NotificationKind) (message : String) : Shifts now s q (q.push kind message now)
  | expire : Shifts now s q (q.expire now).2
  | dismiss (hs : s = .action .dismiss) : Shifts now s q q.dismiss.2

theorem handleAction_dismiss (v : Viewer) (now : Duration) :
    v.handleAction now .dismiss =
      if v.state.helpShown then ({ v with state := { v.state.touch.disarmClear with helpShown := false } }, [])
      else ({ v with state := { v.state.touch.disarmClear with
        notifications := v.state.notifications.dismiss.2 } }, []) := rfl

theorem shifts_react (v : Viewer) (now : Duration) (s : Stimulus) :
    Shifts now s v.state.notifications (v.react now s).1.state.notifications := by
  cases s with
  | transport event =>
    cases event with
    | frame text =>
      obtain ⟨scroll, hscroll⟩ := v.state.recordArrived_eq
        (Frame.route text v.correlator v.log).2.2.newestIsVisible
      simp only [react, handleTransport, handleFrame, hscroll]
      split <;> split <;> exact .still
    | reconnectScheduled attempt most delay => exact .still
    | stateChanged c =>
      cases c with
      | connecting => exact .still
      | «open» | failed => exact .push _ _
      | closed | errored =>
        simp only [react, handleTransport]
        split
        · exact .push _ _
        · exact .still
  | finished how =>
    cases how with
    | logsLoaded records | serverCleared => exact .push _ _
    | statsLoaded snapshot => exact .still
    | downloaded path trouble => cases trouble <;> exact .push _ _
    | failed purpose error quiet =>
      cases quiet with
      | true => exact .still
      | false => exact .push _ _
  | action a =>
    cases a with
    | dismiss =>
      rw [react, handleAction_dismiss]
      split
      · exact .still
      · exact .dismiss rfl
    | clearServerLogs =>
      show Shifts now _ v.state.notifications (v.state.touch.confirmClear now).2.notifications
      cases h : v.state.touch.isConfirming now with
      | true =>
        rw [ViewerState.confirmClear_of_isConfirming h]
        exact .still
      | false =>
        rw [ViewerState.confirmClear_of_not_isConfirming h]
        exact .push _ _
    | clearView | download format => exact .push _ _
    | _ => exact .still
  | tick => exact .expire
  | draw width height | jobsRan correlator => exact .still

theorem Shifts.lifetime_eq {now : Duration} {s : Stimulus} {q q' : Notifications}
    (h : Shifts now s q q') : q'.lifetime = q.lifetime := by
  cases h <;> rfl

/-! ## 3. What starts a deletion -/

theorem operation_loadLogs_ne (v : Viewer) : v.loadLogs.operation ≠ .clearLogs := by
  rw [loadLogs]
  cases v.state.level <;> simp

/-- Only an action makes the viewer delete anything on the server. -/
theorem jobs_react_of_not_action {s : Stimulus} (hs : s.action? = none) (v : Viewer) (now : Duration) :
    ∀ job ∈ (v.react now s).2, job.operation ≠ .clearLogs := by
  cases s with
  | action a => exact absurd hs (by simp [Stimulus.action?])
  | transport event =>
    cases event with
    | frame text | reconnectScheduled attempt most delay => simp [react, handleTransport]
    | stateChanged c =>
      cases c with
      | connecting | closed | errored => simp [react, handleTransport]
      | «open» | failed =>
        intro job hjob
        rw [List.mem_singleton.mp hjob]
        exact operation_loadLogs_ne _
  | finished how | tick | draw width height | jobsRan correlator => simp [react]

theorem not_deletes_of_ne (v : Viewer) (now : Duration) {a : Action} (ha : a ≠ .clearServerLogs) :
    (v.deed now a).deletes = false ∧ (v.handleAction now a).1.state.clearArmedAt = none := by
  cases a with
  | clearServerLogs => exact absurd rfl ha
  | dismiss =>
    rw [deed, Deed.deletes, handleAction_dismiss]
    split <;> exact ⟨rfl, rfl⟩
  | refreshLogs =>
    refine ⟨?_, rfl⟩
    show (v.loadLogs.operation = .clearLogs || false) = false
    simp [operation_loadLogs_ne v]
  | _ => exact ⟨rfl, rfl⟩

/-- **A press deletes if it confirms the one before**, and it warns otherwise. -/
theorem press_cases (v : Viewer) (now : Duration) :
    let d := v.deed now .clearServerLogs
    let w := (v.handleAction now .clearServerLogs).1.state
    (v.state.isConfirming now = true ∧ d.deletes = true ∧ w.clearArmedAt = none) ∨
    (v.state.isConfirming now = false ∧ d.deletes = false ∧ w.clearArmedAt = some now ∧
      w.notifications.items = v.state.notifications.items ++ [d.warning]) := by
  intro d w
  have hd : d.deletes = (if (v.state.touch.confirmClear now).1 then
      [({ operation := .clearLogs } : Job)] else []).any fun job => job.operation = .clearLogs := rfl
  have hw : w = (v.state.touch.confirmClear now).2 := rfl
  have htouch : v.state.touch.isConfirming now = v.state.isConfirming now := rfl
  cases h : v.state.isConfirming now with
  | true =>
    rw [hd, hw, ViewerState.confirmClear_of_isConfirming (htouch.trans h)]
    exact .inl ⟨rfl, rfl, rfl⟩
  | false =>
    rw [hd, hw, ViewerState.confirmClear_of_not_isConfirming (htouch.trans h)]
    exact .inr ⟨rfl, rfl, rfl, rfl⟩

/-! ## 4. The guard and the warning -/

/-- **The warning of a deed is still shown**, behind some of the messages that were shown before it. -/
def Warned (d : Deed) (items : List Notification) : Prop :=
  ∃ older newer, older.Sublist d.shown ∧ items = older ++ d.warning :: newer

/-- **The invariant of a run**: how the viewer stands at a moment, after so and so a deed. -/
structure Guarded (lifetime : Duration) (last : Option Deed) (now : Duration) (v : Viewer) : Prop where
  lifetime_eq : v.state.notifications.lifetime = lifetime
  armed_eq : v.state.clearArmedAt = (last.filter Deed.warns).map Deed.moment
  warned : ∀ d, last = some d → d.warns = true → now.nanos - d.moment.nanos < lifetime.nanos →
    Warned d v.state.notifications.items

namespace Guarded

variable {lifetime : Duration} {last : Option Deed} {now later : Duration} {v : Viewer}

/-- A warning stays in the queue over what is no action, as long as its time is not over. -/
theorem warned_shifts {d : Deed} {s : Stimulus} (hs : s.action? = none) {q q' : Notifications}
    (hq : Warned d q.items) (hcurrent : d.warning.isCurrent q.lifetime now = true)
    (h : Shifts now s q q') : Warned d q'.items := by
  obtain ⟨older, newer, holder, hitems⟩ := hq
  cases h with
  | still => exact ⟨older, newer, holder, hitems⟩
  | push kind message =>
    refine ⟨older, newer ++ [{ kind, message, shownAt := now }], holder, ?_⟩
    show q.items ++ _ = _
    rw [hitems, List.append_assoc, List.cons_append]
  | expire =>
    refine ⟨older.filter (·.isCurrent q.lifetime now), newer.filter (·.isCurrent q.lifetime now),
      List.filter_sublist.trans holder, ?_⟩
    have hkept : (d.warning :: newer).filter (·.isCurrent q.lifetime now)
        = d.warning :: newer.filter (·.isCurrent q.lifetime now) := List.filter_cons_of_pos hcurrent
    show q.items.filter (·.isCurrent q.lifetime now) = _
    rw [hitems, List.filter_append, hkept]
  | dismiss hdismiss =>
    rw [hdismiss] at hs
    exact absurd hs (by simp [Stimulus.action?])

/-- **What is no action keeps the guard.** -/
theorem react_of_not_action (h : Guarded lifetime last now v) {s : Stimulus} (hs : s.action? = none)
    (hlater : now ≤ later) : Guarded lifetime last later (v.react later s).1 where
  lifetime_eq := (v.shifts_react later s).lifetime_eq.trans h.lifetime_eq
  armed_eq := by
    obtain ⟨_, _, _, _, _, hstate⟩ := state_react_of_not_action hs v later
    rw [hstate]
    exact h.armed_eq
  warned := by
    intro d hd hwarns hlt
    have hle : now.nanos ≤ later.nanos := hlater
    refine warned_shifts hs (h.warned d hd hwarns (by omega)) ?_ (v.shifts_react later s)
    rw [h.lifetime_eq]
    exact decide_eq_true hlt

/-- **An action makes the guard its own.** -/
theorem react_of_action (h : Guarded lifetime last now v) (a : Action) :
    Guarded lifetime (some (v.deed later a)) later (v.handleAction later a).1 where
  lifetime_eq := (v.shifts_react later (.action a)).lifetime_eq.trans h.lifetime_eq
  armed_eq := by
    by_cases ha : a = .clearServerLogs
    · subst ha
      rcases v.press_cases later with ⟨-, hdeletes, harmed⟩ | ⟨-, hdeletes, harmed, -⟩
      · have hwarns : (v.deed later .clearServerLogs).warns = false := by simp [Deed.warns, hdeletes]
        rw [harmed, Option.filter_some, hwarns]
        rfl
      · have hwarns : (v.deed later .clearServerLogs).warns = true := by
          rw [Deed.warns, hdeletes]
          rfl
        rw [harmed, Option.filter_some, hwarns]
        rfl
    · have hwarns : (v.deed later a).warns = false := by simp [Deed.warns, deed, ha]
      rw [(v.not_deletes_of_ne later ha).2, Option.filter_some, hwarns]
      rfl
  warned := by
    intro d hd hwarns _
    obtain rfl : v.deed later a = d := Option.some.inj hd
    have ha : a = .clearServerLogs := by
      have hboth := Bool.and_eq_true_iff.mp hwarns
      exact of_decide_eq_true hboth.1
    subst ha
    rcases v.press_cases later with ⟨-, hdeletes, -⟩ | ⟨-, -, -, hitems⟩
    · exact absurd hwarns (by simp [Deed.warns, hdeletes])
    · exact ⟨v.state.notifications.items, [], List.Sublist.refl _, hitems⟩

end Guarded

/-! ## 5. Runs -/

/-- **How a deed follows the one before it.** It deletes exactly if both are presses of the deleting key,
    the one before did not delete, and its time is not over; and then its warning is still shown. -/
structure Follows (lifetime : Duration) (before : Option Deed) (d : Deed) : Prop where
  deletes_iff : d.deletes = true ↔ ∃ e, before = some e ∧ d.action = .clearServerLogs ∧
    e.action = .clearServerLogs ∧ e.deletes = false ∧
    d.moment.nanos - e.moment.nanos < lifetime.nanos
  warned : d.deletes = true → ∃ e, before = some e ∧ Warned e d.shown

namespace Guarded

variable {lifetime : Duration} {last : Option Deed} {now later : Duration} {v : Viewer}

/-- The guard confirms a press exactly if the last deed can be confirmed. -/
theorem isConfirming_iff (h : Guarded lifetime last now v) :
    v.state.isConfirming later = true ↔ ∃ e, last = some e ∧ e.action = .clearServerLogs ∧
      e.deletes = false ∧ later.nanos - e.moment.nanos < lifetime.nanos := by
  rw [ViewerState.isConfirming, h.armed_eq, h.lifetime_eq]
  cases last with
  | none => simp
  | some e =>
    rw [Option.filter_some]
    cases hwarns : e.warns with
    | true =>
      have hboth : e.action = .clearServerLogs ∧ e.deletes = false := by simpa [Deed.warns] using hwarns
      simp [hboth]
    | false =>
      have hnot : e.action = .clearServerLogs → e.deletes = true := by simpa [Deed.warns] using hwarns
      simp only [Bool.false_eq_true, if_false, Option.map_none, Option.any_none, false_iff]
      rintro ⟨e', he, haction, hdeletes, -⟩
      obtain rfl : e = e' := Option.some.inj he
      rw [hnot haction] at hdeletes
      exact absurd hdeletes (by simp)

theorem follows (h : Guarded lifetime last now v) (hlater : now ≤ later) (a : Action) :
    Follows lifetime last (v.deed later a) := by
  by_cases ha : a = .clearServerLogs
  · subst ha
    have hdeletes : (v.deed later .clearServerLogs).deletes = v.state.isConfirming later := by
      rcases v.press_cases later with ⟨hconfirming, hd, -⟩ | ⟨hconfirming, hd, -⟩
      · rw [hd, hconfirming]
      · rw [hd, hconfirming]
    refine ⟨?_, ?_⟩
    · rw [hdeletes, h.isConfirming_iff]
      simp [deed]
    · intro hd
      rw [hdeletes, h.isConfirming_iff] at hd
      obtain ⟨e, he, haction, hnot, hlt⟩ := hd
      have hle : now.nanos ≤ later.nanos := hlater
      have hwarns : e.warns = true := by simp [Deed.warns, haction, hnot]
      exact ⟨e, he, h.warned e he hwarns (by omega)⟩
  · have hdeletes : (v.deed later a).deletes = false := (v.not_deletes_of_ne later ha).1
    have haction : (v.deed later a).action = a := rfl
    refine ⟨?_, ?_⟩
    · rw [hdeletes, haction]
      simp [ha]
    · intro hd
      rw [hdeletes] at hd
      exact absurd hd (by simp)

/-- **Every deed of a run follows the one before it.** -/
theorem follows_deeds (h : Guarded lifetime last now v) {run : List (Duration × Stimulus)}
    (hnow : ∀ x ∈ run, now ≤ x.1) (hrun : run.Pairwise fun x y => x.1 ≤ y.1) {before after : List Deed}
    {d : Deed} (hsplit : v.deeds run = before ++ d :: after) :
    Follows lifetime (before.getLast?.or last) d := by
  induction run generalizing v last now before with
  | nil => exact absurd hsplit (by simp [deeds])
  | cons x rest ih =>
    obtain ⟨later, s⟩ := x
    have hlater : now ≤ later := hnow _ List.mem_cons_self
    obtain ⟨hfirst, hrest⟩ := List.pairwise_cons.mp hrun
    cases hs : s.action? with
    | none =>
      rw [deeds_cons_of_not_action v hs] at hsplit
      exact ih (h.react_of_not_action hs hlater) hfirst hrest hsplit
    | some a =>
      obtain rfl := Stimulus.eq_action hs
      rw [deeds_cons_action] at hsplit
      cases before with
      | nil =>
        obtain ⟨rfl, -⟩ := List.cons.inj hsplit
        exact h.follows hlater a
      | cons e before =>
        obtain ⟨rfl, htail⟩ := List.cons.inj hsplit
        have hguarded : Guarded lifetime (some (v.deed later a)) later (v.handleAction later a).1 :=
          h.react_of_action a
        have hd := ih hguarded hfirst hrest htail
        rw [List.getLast?_cons, Option.some_or]
        cases hlast : before.getLast? with
        | none =>
          rw [hlast] at hd
          exact hd
        | some e =>
          rw [hlast] at hd
          exact hd

end Guarded

/-- A viewer at its start, whose messages have a lifetime. -/
def starting (settings : Settings) (lifetime : Duration) : Viewer :=
  { Viewer.new settings with state := ViewerState.new settings.server lifetime }

theorem guarded_starting (settings : Settings) (lifetime : Duration) :
    Guarded lifetime none ⟨0⟩ (starting settings lifetime) where
  lifetime_eq := rfl
  armed_eq := rfl
  warned := fun _ hd => absurd hd (by simp)

/-- **The server's log is deleted only on a second press.** Take any run of the viewer, as long as its
    moments are in order, and whatever the lifetime of messages. Its deeds are its actions. A deed asks
    the server to delete its log exactly if it is a press of the deleting key and there is a deed before
    it which is a press too, did not delete, and lies less than a lifetime back. Whenever that happens
    the warning of the first press is still in the queue, behind nothing but messages that were there
    before it. And nothing but a deed makes the viewer delete anything on the server. -/
theorem deletes_only_when_confirmed (settings : Settings) (lifetime : Duration)
    {run : List (Duration × Stimulus)} (hrun : run.Pairwise fun x y => x.1 ≤ y.1) :
    let v := starting settings lifetime
    (v.deeds run).map (fun d => (d.moment, d.action))
      = run.filterMap (fun x => x.2.action?.map fun a => (x.1, a)) ∧
    (∀ before d after, v.deeds run = before ++ d :: after →
      (d.deletes = true ↔ ∃ e, before.getLast? = some e ∧ d.action = .clearServerLogs ∧
        e.action = .clearServerLogs ∧ e.deletes = false ∧
        d.moment.nanos - e.moment.nanos < lifetime.nanos) ∧
      (d.deletes = true → ∃ e older newer, before.getLast? = some e ∧ older.Sublist e.shown ∧
        d.shown = older ++ e.warning :: newer)) ∧
    (∀ earlier x rest, run = earlier ++ x :: rest → x.2.action? = none →
      ∀ job ∈ ((v.live earlier).react x.1 x.2).2, job.operation ≠ .clearLogs) := by
  intro v
  refine ⟨v.deeds_eq_actions run, ?_, ?_⟩
  · intro before d after hsplit
    have hfollows := (guarded_starting settings lifetime).follows_deeds (fun _ _ => Nat.zero_le _) hrun
      hsplit
    rw [Option.or_none] at hfollows
    refine ⟨hfollows.deletes_iff, ?_⟩
    intro hd
    obtain ⟨e, he, older, newer, holder, hshown⟩ := hfollows.warned hd
    exact ⟨e, older, newer, he, holder, hshown⟩
  · intro earlier x rest _ hx
    exact jobs_react_of_not_action hx _ x.1

/-- Four presses. The second one comes within the lifetime of the first warning and deletes. The third one
    follows a press that deleted, and the fourth one comes a lifetime after the third: they warn. -/
theorem second_press_deletes :
    let press (ms : Nat) : Duration × Stimulus := (.ofMillis ms, .action .clearServerLogs)
    let run := [press 0, (.ofMillis 1000, .tick), press 2999, press 3000, press 6000]
    let deeds := (starting {} (.ofMillis 3000)).deeds run
    run.Pairwise (fun x y => x.1 ≤ y.1) ∧ deeds.map Deed.deletes = [false, true, false, false] ∧
    ∃ d ∈ deeds, d.deletes = true ∧ ∃ older newer, older.Sublist [] ∧
      d.shown = older ++
        { kind := .warning, message := ViewerState.clearWarning, shownAt := ⟨0⟩ } :: newer := by
  intro press run deeds
  have hrun : run.Pairwise fun x y => x.1 ≤ y.1 := by decide
  obtain ⟨-, hdeeds, -⟩ := deletes_only_when_confirmed {} (.ofMillis 3000) hrun
  -- The viewer as the second press meets it.
  let v := starting {} (.ofMillis 3000)
  let w := (v.handleAction (.ofMillis 0) .clearServerLogs).1.tick (.ofMillis 1000)
  let first := v.deed (.ofMillis 0) .clearServerLogs
  let second := w.deed (.ofMillis 2999) .clearServerLogs
  have hsplit : deeds = [first] ++ second ::
      (w.handleAction (.ofMillis 2999) .clearServerLogs).1.deeds [press 3000, press 6000] := rfl
  obtain ⟨hiff, hwarned⟩ := hdeeds _ _ _ hsplit
  have hdeletes : second.deletes = true :=
    hiff.mpr ⟨first, rfl, rfl, rfl, by decide, by decide⟩
  obtain ⟨e, older, newer, he, holder, hshown⟩ := hwarned hdeletes
  obtain rfl : first = e := Option.some.inj he
  refine ⟨hrun, by decide, second, ?_, hdeletes, older, newer, holder, hshown⟩
  rw [hsplit]
  simp

end Viewer
end LiveLog
