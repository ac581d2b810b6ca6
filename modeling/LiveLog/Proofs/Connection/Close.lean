import LiveLog.Proofs.Connection.Lifecycle

/-!
# What a close is worth

Whoever closes a connection leaves word for its task. The task looks for it where it waits, but there it
also waits for other things, and of what is ready it takes any. So a handshake that fails, or a session
that breaks, can be met first although the connection is closed, and then the task does what it always
does: it announces a retry, or gives up. It does not look for the close in between.

`closes_for_good_iff` says exactly when a close keeps its promise (`ClosesForGood`): when nothing is lost
after it. As long as the task waits it can still notice the close, and then it says so and nothing more.
-/

namespace LiveLog
namespace Connection

open TransportEvent

/-! ## 1. Runs without a loss -/

/-- Whether a run loses an attempt or a session. -/
def losesIn (c : Connection) : List Turn → Bool
  | [] => false
  | t :: rest => c.losesBy t || (c.turn t).1.losesIn rest

/-- **What a close promises** for the rest of a run: no retry is announced, the connection does not fail,
    and if it ends, it says last that it is closed. -/
structure ClosesForGood (c : Connection) (later : List Turn) : Prop where
  not_scheduled : ∀ attempt maxAttempts delay,
    .reconnectScheduled attempt maxAttempts delay ∉ c.events later
  not_failed : .stateChanged .failed ∉ c.events later
  closed : (c.after later).phase = .done → (states (c.events later)).getLast? = some .closed

section Move

variable {c c' : Connection} {t : Turn} {news : List TransportEvent}

theorem Move.closed (h : Move c t c' news) (hclosed : c.closed = true) : c'.closed = true := by
  cases h with
  | closes => rfl
  | _ => exact hclosed

/-- **A turn that loses nothing** announces nothing bad, and the end only as closed. -/
theorem Move.of_keeps (h : Move c t c' news) (hkeeps : c.losesBy t = false) (hrunning : c.phase ≠ .done) :
    (∀ attempt maxAttempts delay, .reconnectScheduled attempt maxAttempts delay ∉ news) ∧
    .stateChanged .failed ∉ news ∧ (c'.phase = .done → news = [.stateChanged .closed]) := by
  cases h with
  | stays => exact ⟨by simp, by simp, fun hdone => absurd hdone hrunning⟩
  | closes => exact ⟨by simp, by simp, fun hdone => absurd hdone hrunning⟩
  | hears => exact ⟨by simp, by simp, fun hdone => absurd hdone hrunning⟩
  | connects => exact ⟨by simp, by simp, fun hdone => absurd hdone (by simp)⟩
  | opens => exact ⟨by simp, by simp, fun hdone => absurd hdone (by simp)⟩
  | retries _ _ _ _ _ hloses => exact absurd (hkeeps.symm.trans hloses) (by simp)
  | givesUp _ _ _ hloses => exact absurd (hkeeps.symm.trans hloses) (by simp)
  | ends => exact ⟨by simp, by simp, fun _ => rfl⟩

/-- **A turn that loses something** announces a retry or that the connection failed. -/
theorem Move.of_loses (h : Move c t c' news) (hloses : c.losesBy t = true) :
    (∃ attempt maxAttempts delay, .reconnectScheduled attempt maxAttempts delay ∈ news) ∨
    .stateChanged .failed ∈ news := by
  cases h with
  | stays _ _ hkept => exact absurd (hkept.symm.trans hloses) (by simp)
  | closes hclose => exact absurd hloses (by simp [hclose, losesBy])
  | hears _ _ hkept => exact absurd (hkept.symm.trans hloses) (by simp)
  | connects _ hkept => exact absurd (hkept.symm.trans hloses) (by simp)
  | opens _ hturn => exact absurd hloses (by simp [hturn, losesBy, Occurrence.isLoss])
  | retries _ _ delay backoff => exact .inl ⟨backoff.attempts, backoff.config.maxAttempts, delay, by simp⟩
  | givesUp => exact .inr (by simp)
  | ends _ hkept => exact absurd (hkept.symm.trans hloses) (by simp)

end Move

theorem events_of_done {config : BackoffConfig} {c : Connection} (h : Sound config True c)
    (hdone : c.phase = .done) (ts : List Turn) : c.events ts = [] := by
  have hstory := (h.run fun _ : Turn.close ∈ ts => trivial).1
  rw [point, hdone] at hstory
  exact hstory.eq_nil_of_done

theorem closed_after {c : Connection} (hclosed : c.closed = true) (ts : List Turn) :
    (c.after ts).closed = true := by
  induction ts generalizing c with
  | nil => exact hclosed
  | cons t rest ih => exact ih ((move_turn c t).closed hclosed)

/-! ## 2. When a close wins -/

theorem closesForGood_of_keeps {config : BackoffConfig} {c : Connection} {later : List Turn}
    (h : Sound config True c) (hrunning : c.phase ≠ .done) (hkeeps : c.losesIn later = false) :
    ClosesForGood c later := by
  induction later generalizing c with
  | nil => exact ⟨fun _ _ _ => List.not_mem_nil, List.not_mem_nil, fun hdone => absurd hdone hrunning⟩
  | cons t rest ih =>
    rw [losesIn, Bool.or_eq_false_iff] at hkeeps
    have hmove := move_turn c t
    have hturn := (h.move (fun _ => trivial) hmove).2
    obtain ⟨hscheduled, hfailed, hended⟩ := hmove.of_keeps hkeeps.1 hrunning
    by_cases hdone : (c.turn t).1.phase = .done
    · -- The turn is the end, so its news are all that was published.
      have hevents : c.events (t :: rest) = [.stateChanged .closed] := by
        rw [events, hended hdone, events_of_done hturn hdone]
        rfl
      refine ⟨?_, ?_, ?_⟩ <;> rw [hevents]
      · simp
      · simp
      · exact fun _ => rfl
    · have hrest := ih hturn hdone hkeeps.2
      refine ⟨?_, ?_, ?_⟩
      · intro attempt maxAttempts delay hmem
        rcases List.mem_append.mp hmem with hmem | hmem
        · exact hscheduled _ _ _ hmem
        · exact hrest.not_scheduled _ _ _ hmem
      · intro hmem
        rcases List.mem_append.mp hmem with hmem | hmem
        · exact hfailed hmem
        · exact hrest.not_failed hmem
      · intro hend
        rw [events, states_append, List.getLast?_append, hrest.closed hend]
        rfl

theorem ClosesForGood.keeps {c : Connection} {later : List Turn} (h : ClosesForGood c later) :
    c.losesIn later = false := by
  -- The last promise is not inherited by a run that ends here, and it is not needed.
  obtain ⟨hscheduled, hfailed, -⟩ := h
  induction later generalizing c with
  | nil => rfl
  | cons t rest ih =>
    simp only [events, List.mem_append, not_or] at hscheduled hfailed
    have hrest := ih (fun attempt maxAttempts delay => (hscheduled attempt maxAttempts delay).2) hfailed.2
    cases hloses : c.losesBy t with
    | false => rw [losesIn, hloses, hrest]; rfl
    | true =>
      rcases (move_turn c t).of_loses hloses with ⟨attempt, maxAttempts, delay, hmem⟩ | hmem
      · exact absurd hmem (hscheduled attempt maxAttempts delay).1
      · exact absurd hmem hfailed.1

/-- Wherever the task waits, it can notice that it is closed. -/
theorem news_noticeClose {c : Connection} (hclosed : c.closed = true) (hfresh : c.phase ≠ .fresh)
    (hrunning : c.phase ≠ .done) : c.news (.task .noticeClose) = [.stateChanged .closed] := by
  cases hphase : c.phase with
  | fresh => exact absurd hphase hfresh
  | done => exact absurd hphase hrunning
  | handshaking => simp [news, turn, step, hphase, hclosed, finish, publish, Effect.events]
  | session => simp [news, turn, step, hphase, hclosed, shutdown, finish, publish, Effect.events]
  | waiting => simp [news, turn, step, hphase, hclosed, finish, publish, Effect.events]

/-- **A close keeps its promise exactly if nothing is lost after it.** As long as the task waits, it can
    still notice the close, and says only that it is closed. -/
theorem closes_for_good_iff (config : BackoffConfig) (ts later : List Turn)
    (hrunning : ((new config).after ts).phase ≠ .done) :
    let c := ((new config).after ts).close
    (ClosesForGood c later ↔ c.losesIn later = false) ∧
    ((c.after later).phase ≠ .fresh → (c.after later).phase ≠ .done →
      (c.after later).news (.task .noticeClose) = [.stateChanged .closed]) := by
  intro c
  have hafter := sound_after config ts
  have hsound : Sound config True c := ⟨hafter.backoff, hafter.attempts_le, fun _ => trivial⟩
  refine ⟨⟨ClosesForGood.keeps, closesForGood_of_keeps hsound hrunning⟩, ?_⟩
  exact news_noticeClose (closed_after rfl later)

/-- The close of an open connection, met at once. -/
theorem closes_for_good_in_session :
    ((new { maxAttempts := 1 }).after [.task .start, .task .handshakeSucceeded]).phase ≠ .done ∧
    ClosesForGood ((new { maxAttempts := 1 }).after [.task .start, .task .handshakeSucceeded]).close
      [.task .noticeClose] :=
  ⟨by decide, (closes_for_good_iff { maxAttempts := 1 } [.task .start, .task .handshakeSucceeded]
    [.task .noticeClose] (by decide)).1.mpr rfl⟩

/-- **A close can be passed over.** A connection is closed before its task runs, and the handshake fails first:
    the only retry is announced. One is closed while its session lasts, and the other side closes first: a retry
    is announced too. Both end as closed, but not before. -/
theorem close_passed_over :
    let idle := new { maxAttempts := 1, baseDelayMs := 9000, multiplier := 1, maxDelayMs := 9000 }
    let refused : List Turn := [.task .start, .task .handshakeFailed, .task .noticeClose]
    let session := (new { maxAttempts := 1 }).after [.task .start, .task .handshakeSucceeded]
    let left : List Turn := [.task (.received .close), .task .noticeClose]
    (idle.phase ≠ .done ∧
      idle.close.events refused = [.stateChanged .connecting, .stateChanged .errored,
        .reconnectScheduled 1 1 (.ofMillis 9000), .stateChanged .closed] ∧
      ¬ ClosesForGood idle.close refused) ∧
    (session.phase ≠ .done ∧
      session.close.events left
        = [.stateChanged .closed, .reconnectScheduled 1 1 (.ofMillis 3000), .stateChanged .closed] ∧
      ¬ ClosesForGood session.close left) := by
  refine ⟨⟨by decide, rfl, ?_⟩, by decide, rfl, ?_⟩
  · intro h
    apply h.not_scheduled 1 1 (.ofMillis 9000)
    exact List.mem_cons_of_mem _ (List.mem_cons_of_mem _ List.mem_cons_self)
  · intro h
    apply h.not_scheduled 1 1 (.ofMillis 3000)
    exact List.mem_cons_of_mem _ List.mem_cons_self

end Connection
end LiveLog
