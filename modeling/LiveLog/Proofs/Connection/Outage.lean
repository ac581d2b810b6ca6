import LiveLog.Net.Outage
import LiveLog.Proofs.Connection.Close
import LiveLog.Proofs.Connection.Retry
import Mathlib.Data.List.TakeDrop

/-!
# Runs out of reach

A connection whose server is out of reach runs by itself, but what it does there is nothing special: it goes
through a run of turns like any other. **Whoever waits for its events is told the events of such a run**, all of
them and in their order (`await_run`). So what is known of runs holds in that world too, and above all what is
known of runs in which no handshake succeeds.

One thing is left open there: whether a close is met before a handshake that failed. It decides what a close is
worth. **A connection that is closed before its task runs is closed for good exactly if the close is heeded**
(`closesForGood_iff_heedsClose`).
-/

namespace LiveLog
namespace Outage

open Connection

variable {o middle later : Outage}

/-! ## 1. Turns -/

/-- **A world that comes after another one** by a run in which no handshake succeeds and nobody closes the
    connection, with the events of the run behind those that nobody took yet. -/
def Reaches (o later : Outage) : Prop :=
  ∃ ts, Unreached ts ∧ later.connection = o.connection.after ts ∧
    later.unread = o.unread ++ o.connection.events ts

theorem Reaches.refl (o : Outage) : Reaches o o := by
  refine ⟨[], ?_, rfl, ?_⟩
  · simp [Unreached]
  · exact (List.append_nil _).symm

theorem Reaches.trans (first : Reaches o middle) (second : Reaches middle later) : Reaches o later := by
  obtain ⟨ts, hts, hconnection, hunread⟩ := first
  obtain ⟨us, hus, hlater, hnews⟩ := second
  refine ⟨ts ++ us, hts.append hus, ?_, ?_⟩
  · rw [hlater, hconnection, after_append]
  · rw [hnews, hunread, hconnection, events_append, List.append_assoc]

theorem occurrence_ne (o : Outage) : o.occurrence ≠ .handshakeSucceeded := by
  unfold occurrence
  split
  · simp
  · split <;> simp
  · split <;> simp

theorem reaches_of_advance (h : o.advance = some later) : Reaches o later := by
  obtain ⟨⟨connection, effects⟩, hstep, rfl⟩ := Option.map_eq_some_iff.mp h
  have hturn : o.connection.turn (.task o.occurrence) = (connection, effects) := by
    simp only [turn, hstep, Option.getD_some]
  refine ⟨[.task o.occurrence], ?_, ?_, ?_⟩
  · have hne := o.occurrence_ne.symm
    simp [Unreached, hne]
  · simp [after, hturn]
  · simp [events, news, hturn]

theorem reaches_settle (o : Outage) : Reaches o o.settle := by
  unfold settle
  split
  · exact .refl o
  · cases hadvance : o.advance with
    | none => exact .refl o
    | some later => exact reaches_of_advance hadvance

theorem reaches_of_next (h : o.next = some later) : Reaches o later := by
  obtain ⟨first, hfirst, rfl⟩ := Option.map_eq_some_iff.mp h
  apply (reaches_of_advance hfirst).trans
  apply (reaches_settle first).trans
  exact reaches_settle first.settle

/-! ## 2. Waiting -/

section Waiting

variable {wanted : TransportEvent → Bool} {turns patience : Nat} {taken : List TransportEvent} {found : Bool}

/-- **How waiting goes on**: the event is there, or the connection is done, or the task runs once and the rest is
    waited for. -/
theorem takeUntil_cases (h : takeUntil wanted (turns + 1) patience o = some (taken, found, later)) :
    (∃ before e rest, o.unread = before ++ e :: rest ∧ taken = before ++ [e] ∧
      later = { o with unread := rest }) ∨
    (taken = o.unread ∧ later = { o with unread := [] }) ∨
    (∃ middle more left, ({ o with unread := [] } : Outage).next = some middle ∧
      takeUntil wanted turns left middle = some (more, found, later) ∧ taken = o.unread ++ more) := by
  rw [takeUntil, List.span_eq_takeWhile_dropWhile] at h
  have hwhole : o.unread.takeWhile (fun e => !wanted e) ++ o.unread.dropWhile (fun e => !wanted e) =
      o.unread := List.takeWhile_append_dropWhile
  cases hbehind : o.unread.dropWhile fun e => !wanted e with
  | cons e rest =>
    simp only [hbehind, Option.some.injEq, Prod.mk.injEq] at h
    obtain ⟨htaken, -, hlater⟩ := h
    rw [hbehind] at hwhole
    exact .inl ⟨_, e, rest, hwhole.symm, htaken.symm, hlater.symm⟩
  | nil =>
    rw [hbehind, List.append_nil] at hwhole
    simp only [hbehind, hwhole] at h
    split at h
    · exact absurd h (by simp)
    · cases hnext : ({ o with unread := [] } : Outage).next with
      | none =>
        simp only [hnext, Option.some.injEq, Prod.mk.injEq] at h
        exact .inr (.inl ⟨h.1.symm, h.2.2.symm⟩)
      | some middle =>
        rw [hnext] at h
        obtain ⟨⟨more, found', later'⟩, hmore, heq⟩ := Option.map_eq_some_iff.mp h
        obtain ⟨rfl, rfl, rfl⟩ : o.unread ++ more = taken ∧ found' = found ∧ later' = later := by
          simpa using heq
        exact .inr (.inr ⟨middle, more, _, rfl, hmore, rfl⟩)

/-- **Nothing is lost to one who waits**: what was taken and what is left are what was there and the events of a
    run. -/
theorem takeUntil_run (h : takeUntil wanted turns patience o = some (taken, found, later)) :
    ∃ ts, Unreached ts ∧ later.connection = o.connection.after ts ∧
      taken ++ later.unread = o.unread ++ o.connection.events ts := by
  induction turns generalizing patience o taken with
  | zero => exact absurd h (by simp [takeUntil])
  | succ turns ih =>
    have hstays : Unreached [] := by simp [Unreached]
    obtain ⟨before, e, rest, hunread, rfl, rfl⟩ | ⟨rfl, rfl⟩ | ⟨middle, more, left, hnext, hmore, rfl⟩ :=
      takeUntil_cases h
    · refine ⟨[], hstays, rfl, ?_⟩
      rw [hunread, events, List.append_nil, List.append_assoc]
      rfl
    · exact ⟨[], hstays, rfl, rfl⟩
    · obtain ⟨ts, hts, hconnection, hnews⟩ := reaches_of_next hnext
      obtain ⟨us, hus, hlater, htaken⟩ := ih hmore
      refine ⟨ts ++ us, hts.append hus, ?_, ?_⟩
      · rw [hlater, hconnection, after_append]
      · rw [List.append_assoc, htaken, hnews, hconnection, events_append]
        rfl

/-- **Whoever waits for an event is told the events of a run**, all of them and in their order. -/
theorem await_run (h : o.await wanted patience = some (taken, found, later)) :
    ∃ ts, Unreached ts ∧ later.connection = o.connection.after ts ∧
      taken ++ later.unread = o.unread ++ o.connection.events ts :=
  takeUntil_run h

end Waiting

/-! ## 3. A close before the task runs -/

/-- A connection that was closed when it was just made. -/
def startClosed (config : BackoffConfig) (heedsClose : Bool) : Outage :=
  { start config heedsClose with connection := (Connection.new config).close }

theorem sound_close_new (config : BackoffConfig) : Sound config True (Connection.new config).close := by
  have hnew := sound_after config []
  exact ⟨hnew.backoff, hnew.attempts_le, fun _ => trivial⟩

/-- **A close before the task runs is for good exactly if it is heeded.** Either way the task runs to its end at
    once. -/
theorem closesForGood_iff_heedsClose (config : BackoffConfig) (heedsClose : Bool) :
    ∃ ts later, (startClosed config heedsClose).next = some later ∧
      later.connection = (Connection.new config).close.after ts ∧ later.connection.phase = .done ∧
      later.unread = (Connection.new config).close.events ts ∧
      (ClosesForGood (Connection.new config).close ts ↔ heedsClose = true) := by
  cases heedsClose with
  | true =>
    have hrunning : (Connection.new config).close.phase ≠ .done := by simp [Connection.new, close]
    refine ⟨[.task .start, .task .noticeClose], _, rfl, rfl, rfl, rfl, ?_⟩
    have hkept : ClosesForGood (Connection.new config).close [.task .start, .task .noticeClose] :=
      closesForGood_of_keeps (sound_close_new config) hrunning rfl
    simp [hkept]
  | false =>
    have hlost {ts : List Turn} (hloses : (Connection.new config).close.losesIn ts = true) :
        ClosesForGood (Connection.new config).close ts ↔ false = true := by
      constructor
      · intro hkept
        rw [← hkept.keeps, hloses]
      · intro h
        exact absurd h (by simp)
    obtain ⟨maxAttempts, base, multiplier, maxDelay⟩ := config
    cases maxAttempts with
    | zero =>
      -- No attempt is left, so the failure is the end.
      exact ⟨[.task .start, .task .handshakeFailed], _, rfl, rfl, rfl, rfl, hlost rfl⟩
    | succ n =>
      exact ⟨[.task .start, .task .handshakeFailed, .task .noticeClose], _, rfl, rfl, rfl, rfl, hlost rfl⟩

end Outage
end LiveLog
