import LiveLog.Proofs.Connection.Lifecycle
import Mathlib.Data.List.DropRight

/-!
# The budget of retries

How often a connection is tried again, over every run. Two numbers have to agree for that: what the
listener of the events counts since the last open, and what the backoff of the task has counted. A story
carries the first (`Point.retries`) and `story_after` says that the second is the same, so that here only
stories are counted: the retries since the last open (`Story.retriesSinceOpen_eq`), and the attempts when
nothing was ever opened or closed (`Story.attempts_eq`).

What is announced for a retry depends on its number only, so numbering and delays start over together.
-/

namespace LiveLog

/-! ## 1. Counting events -/

namespace TransportEvent

/-- Whether an event announces a retry. -/
def isRetry : TransportEvent → Bool
  | .reconnectScheduled _ _ _ => true
  | _ => false

/-- The events since the last open. -/
def sinceOpen (es : List TransportEvent) : List TransportEvent :=
  es.rtakeWhile (· != .stateChanged .open)

/-- **The retries announced since the last open.** -/
def retriesSinceOpen (es : List TransportEvent) : List TransportEvent := (sinceOpen es).filter isRetry

/-- **The number of attempts**: each is announced as connecting. -/
def attempts (es : List TransportEvent) : Nat := es.count (.stateChanged .connecting)

theorem retriesSinceOpen_concat (es : List TransportEvent) (e : TransportEvent) :
    retriesSinceOpen (es ++ [e])
      = if e = .stateChanged .open then []
        else retriesSinceOpen es ++ (if e.isRetry then [e] else []) := by
  unfold retriesSinceOpen sinceOpen
  by_cases hopen : e = .stateChanged .open
  · rw [List.rtakeWhile_concat_neg _ _ _ (by simp [hopen]), if_pos hopen]
    rfl
  · rw [List.rtakeWhile_concat_pos _ _ _ (by simp [hopen]), if_neg hopen, List.filter_append]
    cases e <;> rfl

theorem attempts_concat (es : List TransportEvent) (e : TransportEvent) :
    attempts (es ++ [e]) = attempts es + (if e = .stateChanged .connecting then 1 else 0) := by
  unfold attempts
  rw [List.count_append, List.count_singleton]
  simp only [beq_iff_eq]

end TransportEvent

open TransportEvent

/-! ## 2. Retries of a story -/

namespace Story

variable {config : BackoffConfig} {closing : Prop} {es : List TransportEvent} {q : Point}

/-- **Since the last open, the retries are the first of the schedule**, in order. -/
theorem retriesSinceOpen_eq (h : Story config closing .start es q) :
    retriesSinceOpen es = (List.range q.retries).map config.retry := by
  refine law (fun es q => retriesSinceOpen es = (List.range q.retries).map config.retry) rfl ?_ h
  intro es m e q hm he
  rw [retriesSinceOpen_concat, hm]
  cases he with
  | opens => rfl
  | schedules k =>
    rw [List.range_succ, List.map_append]
    rfl
  | connects => exact List.append_nil _
  | hears => exact List.append_nil _
  | fails => exact List.append_nil _
  | breaks _ _ hstate => rcases hstate with rfl | rfl <;> exact List.append_nil _
  | givesUp => exact List.append_nil _
  | ends => exact List.append_nil _
  | stops => exact List.append_nil _

theorem exists_eq_retry {attempt maxAttempts : Nat} {delay : Duration}
    (h : Story config closing .start es q) (hmem : .reconnectScheduled attempt maxAttempts delay ∈ es) :
    ∃ k, k < config.maxAttempts ∧ .reconnectScheduled attempt maxAttempts delay = config.retry k := by
  obtain ⟨before, after, rfl⟩ := List.append_of_mem hmem
  obtain ⟨m, n, _, he, _⟩ := h.split
  cases he with
  | schedules k hleft => exact ⟨k, hleft, rfl⟩

end Story

/-! ## 3. A server that is never reached -/

/-- How many attempts were made at a point, if none ever succeeded. -/
def Point.attempts (p : Point) : Nat :=
  match p.stage with
  | .fresh => p.retries
  | .waiting => p.retries
  | _ => p.retries + 1

namespace Story

variable {config : BackoffConfig} {es : List TransportEvent} {q : Point}

/-- **Without an open or a close, every attempt but the first is a retry**, and the end comes when all of
    them were made. -/
theorem attempts_eq (h : Story config False .start es q) (hopen : .stateChanged .open ∉ es) :
    attempts es = q.attempts ∧ q.stage ≠ .session ∧ (q.stage = .done → q.retries = config.maxAttempts) := by
  refine law (fun es q => .stateChanged .open ∉ es → attempts es = q.attempts ∧ q.stage ≠ .session ∧
    (q.stage = .done → q.retries = config.maxAttempts)) ?_ ?_ h hopen
  · intro _
    exact ⟨rfl, by simp [Point.start], by simp [Point.start]⟩
  intro es m e q ih he hopen
  rw [List.mem_append, List.mem_singleton, not_or] at hopen
  obtain ⟨hcount, hsession, hdone⟩ := ih hopen.1
  rw [attempts_concat, hcount]
  cases he with
  | connects stage k hstage =>
    -- The first attempt is no retry, which is why a point counts one more from here on.
    refine ⟨?_, by simp, by simp⟩
    rcases hstage with rfl | rfl <;> rfl
  | opens => exact absurd rfl hopen.2
  | hears => exact absurd rfl hsession
  | fails => exact ⟨rfl, by simp, by simp⟩
  | breaks => exact absurd rfl hsession
  | schedules => exact ⟨rfl, by simp, by simp⟩
  | givesUp => exact ⟨rfl, by simp, fun _ => rfl⟩
  | ends => exact absurd rfl hsession
  | stops _ _ _ hclosing => exact hclosing.elim

end Story

/-! ## 4. The budget of runs -/

namespace Connection

/-- A run in which no handshake succeeds and nobody closes the connection. -/
def Unreached (ts : List Turn) : Prop := .task .handshakeSucceeded ∉ ts ∧ .close ∉ ts

theorem Unreached.append {ts us : List Turn} (hts : Unreached ts) (hus : Unreached us) :
    Unreached (ts ++ us) := by
  constructor
  · rw [List.mem_append, not_or]
    exact ⟨hts.1, hus.1⟩
  · rw [List.mem_append, not_or]
    exact ⟨hts.2, hus.2⟩

/-- **The budget of retries**, for a run. -/
structure RetryBudget (config : BackoffConfig) (ts : List Turn) : Prop where
  /-- At any time, the retries announced since the last open are the first of the schedule. -/
  numbered : ∀ es, es <+: (new config).events ts →
    ∃ k ≤ config.maxAttempts, retriesSinceOpen es = (List.range k).map config.retry
  announced : ∀ attempt maxAttempts delay,
    .reconnectScheduled attempt maxAttempts delay ∈ (new config).events ts →
      1 ≤ attempt ∧ attempt ≤ config.maxAttempts ∧ maxAttempts = config.maxAttempts ∧
      (attempt = 1 → delay = .ofMillis (min config.baseDelayMs config.maxDelayMs)) ∧
      delay ≤ .ofMillis config.maxDelayMs
  /-- Giving up is losing something when all retries were announced. -/
  failed_iff : ∀ t, .stateChanged .failed ∈ ((new config).after ts).news t ↔
    ((new config).after ts).losesBy t = true ∧
      (retriesSinceOpen ((new config).events ts)).length = config.maxAttempts
  /-- A server that is never reached sees one attempt and all retries, and nothing keeps it from that. -/
  unreached : Unreached ts →
    attempts ((new config).events ts) ≤ config.maxAttempts + 1 ∧
    (((new config).after ts).phase = .done →
      attempts ((new config).events ts) = config.maxAttempts + 1) ∧
    ∃ us, Unreached us ∧ ((new config).after (ts ++ us)).phase = .done

theorem numbered_after (config : BackoffConfig) (ts : List Turn) {es : List TransportEvent}
    (h : es <+: (new config).events ts) :
    ∃ k ≤ config.maxAttempts, retriesSinceOpen es = (List.range k).map config.retry := by
  have hstory := story_after config ts
  obtain ⟨later, hlater⟩ := h
  rw [← hlater] at hstory
  obtain ⟨m, hes, _⟩ := Story.append_iff.mp hstory
  exact ⟨m.retries, hes.retries_le, hes.retriesSinceOpen_eq⟩

theorem announced_after (config : BackoffConfig) (ts : List Turn) {attempt maxAttempts : Nat}
    {delay : Duration} (h : .reconnectScheduled attempt maxAttempts delay ∈ (new config).events ts) :
    1 ≤ attempt ∧ attempt ≤ config.maxAttempts ∧ maxAttempts = config.maxAttempts ∧
    (attempt = 1 → delay = .ofMillis (min config.baseDelayMs config.maxDelayMs)) ∧
    delay ≤ .ofMillis config.maxDelayMs := by
  obtain ⟨k, hk, hretry⟩ := (story_after config ts).exists_eq_retry h
  rw [BackoffConfig.retry] at hretry
  obtain ⟨rfl, rfl, rfl⟩ := TransportEvent.reconnectScheduled.inj hretry
  refine ⟨by omega, hk, rfl, ?_, config.retryDelay_le k⟩
  intro hfirst
  obtain rfl : k = 0 := by omega
  exact config.retryDelay_zero

/-- A sound connection gives up exactly when it loses something and its attempts are spent. -/
theorem Sound.failed_mem_news_iff {config : BackoffConfig} {closing : Prop} {c : Connection}
    (h : Sound config closing c) (t : Turn) :
    .stateChanged .failed ∈ c.news t ↔ c.losesBy t = true ∧ c.backoff.attempts = config.maxAttempts := by
  have hmove := move_turn c t
  generalize (c.turn t).1 = c' at hmove
  generalize c.news t = news at hmove ⊢
  cases hmove with
  | stays _ _ hkept => simp [hkept]
  | closes hclose => simp [hclose, losesBy]
  | hears _ _ hkept => simp [hkept]
  | connects _ hkept => simp [hkept]
  | opens _ hturn => simp [hturn, losesBy, Occurrence.isLoss]
  | retries state hlost delay backoff hnext =>
    rw [h.backoff] at hnext
    have hleft := (config.next_backoff_eq_some hnext).1
    rcases hlost.eq_or_eq with rfl | rfl <;> simp [Nat.ne_of_lt hleft]
  | givesUp state _ hnext hloses =>
    rw [h.backoff] at hnext
    have hspent := Nat.le_antisymm h.attempts_le (config.next_backoff_eq_none hnext)
    simp [hloses, hspent]
  | ends _ hkept => simp [hkept]

theorem open_not_mem_events {c : Connection} {ts : List Turn} (h : .task .handshakeSucceeded ∉ ts) :
    .stateChanged .open ∉ c.events ts := by
  induction ts generalizing c with
  | nil => exact List.not_mem_nil
  | cons t rest ih =>
    rw [List.mem_cons, not_or] at h
    rw [events, List.mem_append, not_or]
    refine ⟨?_, ih h.2⟩
    have hmove := move_turn c t
    generalize (c.turn t).1 = c' at hmove
    generalize c.news t = news at hmove ⊢
    cases hmove with
    | opens _ hturn => exact absurd hturn.symm h.1
    | retries state hlost => rcases hlost.eq_or_eq with rfl | rfl <;> simp
    | givesUp state hlost => rcases hlost.eq_or_eq with rfl | rfl <;> simp
    | _ => simp

theorem attempts_after {config : BackoffConfig} {ts : List Turn} (h : Unreached ts) :
    attempts ((new config).events ts) = ((new config).after ts).point.attempts ∧
    ((new config).after ts).phase ≠ .session ∧
    (((new config).after ts).phase = .done →
      ((new config).after ts).backoff.attempts = config.maxAttempts) := by
  have hstory := (story_after config ts).mono h.2
  obtain ⟨hcount, hsession, hdone⟩ := hstory.attempts_eq (open_not_mem_events h.1)
  refine ⟨hcount, ?_, ?_⟩
  · intro hphase
    rw [point, hphase] at hsession
    exact hsession rfl
  · intro hphase
    rw [point, hphase] at hdone
    exact hdone rfl

theorem turn_handshakeFailed {c : Connection} (hphase : c.phase = .handshaking) :
    c.turn (.task .handshakeFailed) = c.fall .errored := by
  simp only [turn, step, hphase, Option.getD_some]

theorem turn_delayElapsed {c : Connection} (hphase : c.phase = .waiting) :
    c.turn (.task .delayElapsed) = c.connect := by
  simp only [turn, step, hphase, Option.getD_some]

/-- An attempt that fails while others are left leads to the next attempt. -/
theorem after_retry {c : Connection} {delay : Duration} {backoff : Backoff}
    (hphase : c.phase = .handshaking) (hnext : c.backoff.next = some (delay, backoff)) :
    c.after [.task .handshakeFailed, .task .delayElapsed]
      = { c with phase := .handshaking, state := .connecting, backoff, outbound := [] } := by
  rw [after, List.foldl_cons, turn_handshakeFailed hphase, fall_of_some _ hnext, List.foldl_cons,
    turn_delayElapsed rfl]
  rfl

/-- Handshakes that fail lead to the end: there are less and less attempts. -/
theorem exists_done_of_handshaking {config : BackoffConfig} {closing : Prop} {c : Connection}
    (h : Sound config closing c) (hphase : c.phase = .handshaking) :
    ∃ us, Unreached us ∧ (c.after us).phase = .done := by
  cases hnext : c.backoff.next with
  | none =>
    refine ⟨[.task .handshakeFailed], by simp [Unreached], ?_⟩
    rw [after, List.foldl_cons, turn_handshakeFailed hphase, fall_of_none _ hnext]
    rfl
  | some next =>
    obtain ⟨delay, backoff⟩ := next
    have hrun := after_retry hphase hnext
    have hretry : Unreached [.task .handshakeFailed, .task .delayElapsed] := by simp [Unreached]
    have hsound := (h.run fun hclose => absurd hclose hretry.2).2
    rw [hrun] at hsound
    -- One retry less is left, which is what the recursion goes down on.
    have hless : config.maxAttempts - backoff.attempts < config.maxAttempts - c.backoff.attempts := by
      rw [h.backoff] at hnext
      obtain ⟨hleft, _, rfl⟩ := config.next_backoff_eq_some hnext
      have hattempts : (config.backoff (c.backoff.attempts + 1)).attempts = c.backoff.attempts + 1 := rfl
      omega
    obtain ⟨us, hus, hdone⟩ := exists_done_of_handshaking hsound rfl
    refine ⟨_ ++ us, hretry.append hus, ?_⟩
    rw [after_append, hrun]
    exact hdone
termination_by config.maxAttempts - c.backoff.attempts

/-- Wherever a connection is outside a session, failures alone lead it to the end. -/
theorem exists_done {config : BackoffConfig} {closing : Prop} {c : Connection}
    (h : Sound config closing c) (hsession : c.phase ≠ .session) :
    ∃ us, Unreached us ∧ (c.after us).phase = .done := by
  have hnext (o : Occurrence) (ho : Unreached [.task o]) (hturn : c.turn (.task o) = c.connect) :
      ∃ us, Unreached us ∧ (c.after us).phase = .done := by
    have hsound := (h.run fun hclose => absurd hclose ho.2).2
    have hafter : c.after [.task o] = c.connect.1 := congrArg Prod.fst hturn
    rw [hafter] at hsound
    obtain ⟨us, hus, hdone⟩ := exists_done_of_handshaking hsound rfl
    refine ⟨[.task o] ++ us, ho.append hus, ?_⟩
    rw [after_append, hafter]
    exact hdone
  cases hphase : c.phase with
  | fresh => exact hnext .start (by simp [Unreached]) (by simp only [turn, step, hphase, Option.getD_some])
  | handshaking => exact exists_done_of_handshaking h hphase
  | session => exact absurd hphase hsession
  | waiting => exact hnext .delayElapsed (by simp [Unreached]) (turn_delayElapsed hphase)
  | done => exact ⟨[], by simp [Unreached], hphase⟩

/-- **Every run keeps the budget of retries.** -/
theorem retryBudget_after (config : BackoffConfig) (ts : List Turn) : RetryBudget config ts where
  numbered := fun _ => numbered_after config ts
  announced := fun _ _ _ => announced_after config ts
  failed_iff := by
    intro t
    have hretries := (story_after config ts).retriesSinceOpen_eq
    rw [hretries, List.length_map, List.length_range]
    exact (sound_after config ts).failed_mem_news_iff t
  unreached := by
    intro h
    have hsound := sound_after config ts
    obtain ⟨hcount, hsession, hdone⟩ := attempts_after h
    refine ⟨?_, ?_, ?_⟩
    · have hle := hsound.attempts_le
      rw [hcount, Point.attempts]
      dsimp only [point]
      split <;> omega
    · intro hphase
      rw [hcount, Point.attempts, point, hphase, ← hdone hphase]
      rfl
    · obtain ⟨us, hus, hend⟩ := exists_done hsound hsession
      refine ⟨us, hus, ?_⟩
      rw [after_append]
      exact hend

end Connection
end LiveLog
