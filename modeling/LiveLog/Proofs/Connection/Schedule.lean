import LiveLog.Net.Connection

/-!
# The schedule of retries

What the retries of a configuration look like, numbered from zero: the delay before each and the
announcement of each. Both depend on the configuration and the number only. A `Backoff` adds nothing to
this but the number, so `BackoffConfig.backoff` is all that a connection ever holds.
-/

namespace LiveLog

theorem Duration.min_le_right (a b : Duration) : min a b ≤ b := by
  by_cases hle : a ≤ b
  · have hmin : min a b = a := if_pos hle
    rw [hmin]
    exact hle
  · have hmin : min a b = b := if_neg hle
    rw [hmin]
    exact Nat.le_refl _

namespace BackoffConfig

variable (config : BackoffConfig)

/-- The delay that is kept for the retry of a number; only the one of the first can exceed the
    maximum. -/
def kept : Nat → Duration
  | 0 => config.baseDelay
  | k + 1 => Backoff.grown config (kept k)

/-- **How long the retry of a number waits.** -/
def retryDelay (k : Nat) : Duration := min (config.kept k) config.maxDelay

/-- **The announcement of the retry of a number.** -/
def retry (k : Nat) : TransportEvent :=
  .reconnectScheduled (k + 1) config.maxAttempts (config.retryDelay k)

/-- The backoff after a number of retries. -/
def backoff (k : Nat) : Backoff := { config, attempts := k, delay := config.kept k }

theorem reset_backoff (k : Nat) : (config.backoff k).reset = config.backoff 0 := rfl

/-- After a number of retries the next is the one of that number, if there are so many. -/
theorem next_backoff (k : Nat) :
    (config.backoff k).next
      = if config.maxAttempts ≤ k then none else some (config.retryDelay k, config.backoff (k + 1)) := by
  by_cases hspent : config.maxAttempts ≤ k
  · simp [Backoff.next, Backoff.isExhausted, backoff, hspent]
  · simp [Backoff.next, Backoff.isExhausted, backoff, hspent, retryDelay, kept]

theorem next_backoff_eq_some {k : Nat} {delay : Duration} {b : Backoff}
    (h : (config.backoff k).next = some (delay, b)) :
    k < config.maxAttempts ∧ delay = config.retryDelay k ∧ b = config.backoff (k + 1) := by
  rw [next_backoff] at h
  split at h
  case isTrue => exact absurd h (by simp)
  case isFalse hleft =>
    obtain ⟨rfl, rfl⟩ := Prod.mk.inj (Option.some.inj h)
    exact ⟨Nat.lt_of_not_le hleft, rfl, rfl⟩

theorem next_backoff_eq_none {k : Nat} (h : (config.backoff k).next = none) :
    config.maxAttempts ≤ k := by
  rw [next_backoff] at h
  split at h
  case isTrue hspent => exact hspent
  case isFalse => exact absurd h (by simp)

theorem retryDelay_le (k : Nat) : config.retryDelay k ≤ .ofMillis config.maxDelayMs := Duration.min_le_right _ _

theorem retryDelay_zero :
    config.retryDelay 0 = .ofMillis (min config.baseDelayMs config.maxDelayMs) := by
  by_cases hle : config.baseDelayMs ≤ config.maxDelayMs
  · have hdelay : config.baseDelay ≤ config.maxDelay := Nat.mul_le_mul_right 1000000 hle
    have hmin : config.retryDelay 0 = config.baseDelay := if_pos hdelay
    rw [hmin, Nat.min_eq_left hle]
    rfl
  · have hlt : config.maxDelayMs < config.baseDelayMs := Nat.lt_of_not_le hle
    have hdelay : ¬ config.baseDelay ≤ config.maxDelay :=
      Nat.not_le.mpr (Nat.mul_lt_mul_of_pos_right hlt (by decide))
    have hmin : config.retryDelay 0 = config.maxDelay := if_neg hdelay
    rw [hmin, Nat.min_eq_right (Nat.le_of_lt hlt)]
    rfl

end BackoffConfig
end LiveLog
