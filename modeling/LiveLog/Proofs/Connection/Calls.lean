import LiveLog.Proofs.Connection.Schedule
import Mathlib.Data.List.DropRight

/-!
# A backoff under any calls

A connection asks its backoff in a regular order. Here nothing is known about who asks: the next delay and a
reset may be called for in any order and number, on a configuration that nobody has looked at, whose
multiplier may be no number at all and whose base delay may be above the maximum.

The doubles do not matter for what follows, because the delay is cut after it has grown and not before.
Whatever the product comes to, what is kept is at most the maximum (`grown_le`). So the state after any
calls is one of the schedule, the one that belongs to the number of calls since the last reset, or the
last one if there were more calls than attempts (`after_eq_backoff`). All that can be asked about a
backoff is then asked about the schedule.
-/

namespace LiveLog

/-- A word of milliseconds has no more than a word of seconds. -/
theorem Duration.seconds_le {d : Duration} {ms : Nat} (hd : d ≤ ofMillis ms) (hms : ms ≤ maxWord) :
    d.seconds ≤ maxWord := by
  have hnanos : d.nanos ≤ ms * 1000000 := hd
  show d.nanos / 1000000000 ≤ maxWord
  omega

/-- Whether the numbers of a configuration fit their words: 32 bits for attempts and 64 for milliseconds. -/
structure BackoffConfig.Fits (config : BackoffConfig) : Prop where
  maxAttempts : config.maxAttempts < 0x100000000
  baseDelayMs : config.baseDelayMs ≤ maxWord
  maxDelayMs : config.maxDelayMs ≤ maxWord

namespace Backoff

/-- Whether a backoff fits its words: 32 bits for the attempts that were made and 64 for the seconds of the
    delay. -/
structure Fits (b : Backoff) : Prop where
  attempts : b.attempts < 0x100000000
  delay : b.delay.seconds ≤ maxWord

/-! ## 1. Calls -/

/-- What a backoff can be called for. -/
inductive Call where
  | next
  | reset
deriving DecidableEq, Repr

/-- **The answer to a call, and the backoff after it.** -/
def call (b : Backoff) : Call → Option Duration × Backoff
  | .next =>
    match b.next with
    | some (delay, later) => (some delay, later)
    | none => (none, b)
  | .reset => (none, b.reset)

/-- The backoff after some calls. -/
def after (b : Backoff) (calls : List Call) : Backoff := calls.foldl (fun b c => (b.call c).2) b

/-- The answers to some calls. -/
def answers (b : Backoff) : List Call → List (Option Duration)
  | [] => []
  | c :: rest => (b.call c).1 :: answers (b.call c).2 rest

/-- How often the next delay was called for since the last reset. -/
def asked (calls : List Call) : Nat := (calls.rtakeWhile (· == .next)).length

theorem after_concat (b : Backoff) (calls : List Call) (c : Call) :
    b.after (calls ++ [c]) = ((b.after calls).call c).2 := List.foldl_concat ..

theorem answers_append (b : Backoff) (calls more : List Call) :
    b.answers (calls ++ more) = b.answers calls ++ (b.after calls).answers more := by
  induction calls generalizing b with
  | nil => rfl
  | cons c rest ih =>
    rw [List.cons_append, answers, ih]
    rfl

theorem asked_concat_next (calls : List Call) : asked (calls ++ [.next]) = asked calls + 1 := by
  rw [asked, List.rtakeWhile_concat_pos _ _ _ rfl, List.length_append]
  rfl

theorem asked_concat_reset (calls : List Call) : asked (calls ++ [.reset]) = 0 := by
  rw [asked, List.rtakeWhile_concat_neg _ _ _ (by decide)]
  rfl

/-! ## 2. The state after any calls -/

section Schedule

variable (config : BackoffConfig)

/-- **Whatever the product is, the cut delay is at most the maximum.** -/
theorem grown_le (delay : Duration) : grown config delay ≤ config.maxDelay := Duration.min_le_right _ _

theorem call_next_backoff (k : Nat) :
    (config.backoff k).call .next
      = if config.maxAttempts ≤ k then (none, config.backoff k)
        else (some (config.retryDelay k), config.backoff (k + 1)) := by
  unfold call
  rw [config.next_backoff k]
  by_cases hspent : config.maxAttempts ≤ k
  · simp [hspent]
  · simp [hspent]

/-- **Only the calls since the last reset leave a trace**, and of them no more than there are attempts. -/
theorem after_eq_backoff (calls : List Call) :
    (new config).after calls = config.backoff (min (asked calls) config.maxAttempts) := by
  induction calls using List.reverseRecOn with
  | nil =>
    have hzero : min (asked []) config.maxAttempts = 0 := Nat.zero_min _
    rw [hzero]
    rfl
  | append_singleton calls c ih =>
    rw [after_concat, ih]
    cases c with
    | reset =>
      rw [asked_concat_reset, Nat.zero_min]
      exact config.reset_backoff _
    | next =>
      rw [asked_concat_next, call_next_backoff]
      by_cases hspent : config.maxAttempts ≤ asked calls
      · have hmin : min (asked calls) config.maxAttempts = config.maxAttempts := Nat.min_eq_right hspent
        rw [hmin, if_pos (Nat.le_refl _), Nat.min_eq_right (Nat.le_succ_of_le hspent)]
      · have hleft : asked calls < config.maxAttempts := Nat.lt_of_not_le hspent
        rw [Nat.min_eq_left (Nat.le_of_lt hleft), if_neg hspent, Nat.min_eq_left hleft]

/-- The next call gets a delay if there were fewer than the configured attempts. -/
theorem call_next_after (calls : List Call) :
    ((new config).after calls).call .next
      = if config.maxAttempts ≤ asked calls then (none, (new config).after calls)
        else (some (config.retryDelay (asked calls)), config.backoff (asked calls + 1)) := by
  rw [after_eq_backoff, call_next_backoff]
  by_cases hspent : config.maxAttempts ≤ asked calls
  · rw [Nat.min_eq_right hspent, if_pos (Nat.le_refl _), if_pos hspent]
  · rw [Nat.min_eq_left (Nat.le_of_not_le hspent), if_neg hspent]

theorem answer_eq_none_iff (calls : List Call) :
    (((new config).after calls).call .next).1 = none ↔ config.maxAttempts ≤ asked calls := by
  rw [call_next_after]
  split
  case isTrue hspent => simp [hspent]
  case isFalse hleft => simp [hleft]

theorem eq_retryDelay_of_answer {calls : List Call} {delay : Duration}
    (h : (((new config).after calls).call .next).1 = some delay) : delay = config.retryDelay (asked calls) := by
  have hleft : ¬ config.maxAttempts ≤ asked calls := by
    intro hspent
    rw [(answer_eq_none_iff config calls).mpr hspent] at h
    exact absurd h (by simp)
  rw [call_next_after, if_neg hleft] at h
  exact (Option.some.inj h).symm

theorem isExhausted_after (calls : List Call) :
    ((new config).after calls).isExhausted = true ↔ config.maxAttempts ≤ asked calls := by
  rw [after_eq_backoff]
  show decide (config.maxAttempts ≤ min (asked calls) config.maxAttempts) = true ↔ _
  rw [decide_eq_true_iff]
  omega

theorem reset_after (calls : List Call) : ((new config).after calls).reset = new config := by
  rw [after_eq_backoff]
  exact config.reset_backoff _

theorem fits_backoff {k : Nat} (h : config.Fits) (hk : k ≤ config.maxAttempts) :
    (config.backoff k).Fits := by
  constructor
  case attempts => exact Nat.lt_of_le_of_lt hk h.maxAttempts
  case delay =>
    cases k with
    | zero => exact Duration.seconds_le (d := config.baseDelay) (Nat.le_refl _) h.baseDelayMs
    | succ k => exact Duration.seconds_le (grown_le config (config.kept k)) h.maxDelayMs

theorem fits_after (h : config.Fits) (calls : List Call) : ((new config).after calls).Fits := by
  rw [after_eq_backoff]
  exact fits_backoff config h (Nat.min_le_right _ _)

end Schedule

/-! ## 3. Every configuration and all calls -/

/-- **The budget and the delays of a backoff**, for every configuration and whatever was called for.

    The number of attempts is the number of calls for a delay since the last reset, but at most the
    configured one, and the backoff is exhausted exactly if the next call gets no delay. So since a reset
    exactly the configured number of calls gets one. A call that gets none changes nothing. A delay is
    never above the maximum, and the first one is the base delay, or the maximum if that is less. A reset
    makes the backoff what it was when it was new, so the answers after it are those of a new one.
    And no number leaves its word at any call, if those of the configuration are in theirs. -/
theorem keeps_budget_and_bounds (config : BackoffConfig) (calls : List Call) :
    let b := (new config).after calls
    b.attempts = min (asked calls) config.maxAttempts ∧
    (b.isExhausted = true ↔ (b.call .next).1 = none) ∧
    ((b.call .next).1 = none ↔ config.maxAttempts ≤ asked calls) ∧
    ((b.call .next).1 = none → (b.call .next).2 = b) ∧
    (∀ delay, (b.call .next).1 = some delay → delay ≤ .ofMillis config.maxDelayMs ∧
      (asked calls = 0 → delay = .ofMillis (min config.baseDelayMs config.maxDelayMs))) ∧
    (b.call .reset).2 = new config ∧
    (∀ more, (new config).answers (calls ++ .reset :: more)
      = (new config).answers calls ++ none :: (new config).answers more) ∧
    (config.Fits → b.Fits ∧ ∀ c, (b.call c).2.Fits) := by
  intro b
  have hanswer : (b.call .next).1 = none ↔ config.maxAttempts ≤ asked calls := answer_eq_none_iff config calls
  refine ⟨?_, ?_, hanswer, ?_, ?_, reset_after config calls, ?_, ?_⟩
  · exact congrArg Backoff.attempts (after_eq_backoff config calls)
  · rw [hanswer]
    exact isExhausted_after config calls
  · intro hnone
    rw [call_next_after, if_pos (hanswer.mp hnone)]
  · intro delay hdelay
    obtain rfl := eq_retryDelay_of_answer config hdelay
    refine ⟨config.retryDelay_le _, ?_⟩
    intro hfirst
    rw [hfirst]
    exact config.retryDelay_zero
  · intro more
    have hreset : ((new config).after calls).answers (.reset :: more)
        = none :: ((new config).after calls).reset.answers more := rfl
    rw [answers_append, hreset, reset_after]
  · intro hfits
    refine ⟨fits_after config hfits calls, ?_⟩
    intro c
    rw [← after_concat]
    exact fits_after config hfits _

end Backoff
end LiveLog
