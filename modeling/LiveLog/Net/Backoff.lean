import LiveLog.Json.Decode
import LiveLog.Time.Duration

/-!
# Waiting before a reconnect

How often a lost connection is tried again and how long each attempt waits. The first attempt waits the
base delay, every further one the delay before times a multiplier, none longer than the maximum.

The delay is kept to the nanosecond and grown in double arithmetic. A product that is no span of time
(the multiplier may be anything a file says, until it is validated) counts as the maximum.
-/

namespace LiveLog

/-- **Timing and number of reconnect attempts.** -/
structure BackoffConfig where
  maxAttempts : Nat := 5
  baseDelayMs : Nat := 3000
  multiplier : Float := 1.5
  maxDelayMs : Nat := 30000

/-- What is wrong with a configuration. -/
inductive BackoffFault where
  | multiplier (value : Float)
  | baseAboveMax (base max : Nat)

/-- The wording of a fault. -/
def BackoffFault.message : BackoffFault → String
  | .multiplier value =>
    "reconnect.multiplier must be a finite number >= 1.0, got " ++ Decimal.plain value
  | .baseAboveMax base max =>
    "reconnect.base_delay_ms (" ++ toString base ++ ") exceeds reconnect.max_delay_ms (" ++
      toString max ++ ")"

namespace BackoffConfig

/-- **What is wrong, if anything**: the multiplier is below one or not finite, or the base delay is above
    the maximum. -/
def fault? (c : BackoffConfig) : Option BackoffFault :=
  if !c.multiplier.isFinite || c.multiplier < 1.0 then some (.multiplier c.multiplier)
  else if c.maxDelayMs < c.baseDelayMs then some (.baseAboveMax c.baseDelayMs c.maxDelayMs)
  else none

/-- The delay before the first attempt. -/
def baseDelay (c : BackoffConfig) : Duration := .ofMillis c.baseDelayMs

/-- The longest delay. -/
def maxDelay (c : BackoffConfig) : Duration := .ofMillis c.maxDelayMs

/-- The name that messages about a malformed configuration use. -/
def shapeName : String := "ReconnectConfig"

/-- **A configuration from a document**; absent members take their defaults. -/
def ofJson : Json → Decoded BackoffConfig
  | .object ms => do
    let base ← Json.member? ms "base_delay_ms" Json.asWord64
    let attempts ← Json.member? ms "max_attempts" Json.asWord32
    let max ← Json.member? ms "max_delay_ms" Json.asWord64
    let multiplier ← Json.member? ms "multiplier" Json.asDouble
    pure (make attempts base multiplier max)
  | .array xs => do
    let attempts ← Json.element? xs 0 Json.asWord32
    let base ← Json.element? xs 1 Json.asWord64
    let multiplier ← Json.element? xs 2 Json.asDouble
    let max ← Json.element? xs 3 Json.asWord64
    Json.noMoreThan xs 4
    pure (make attempts base multiplier max)
  | x => x.wrongType (.structure shapeName)
where
  /-- The configuration of the given members, the rest by default. -/
  make (attempts base : Option Nat) (multiplier : Option Float) (max : Option Nat) : BackoffConfig :=
    let d : BackoffConfig := {}
    { maxAttempts := attempts.getD d.maxAttempts, baseDelayMs := base.getD d.baseDelayMs,
      multiplier := multiplier.getD d.multiplier, maxDelayMs := max.getD d.maxDelayMs }

/-- The members of a configuration, for reading one straight from text. -/
def shape : Shape :=
  .record [("max_attempts", .whole), ("base_delay_ms", .whole), ("multiplier", .whole),
    ("max_delay_ms", .whole)]

end BackoffConfig

/-- **Where a sequence of attempts stands.** -/
structure Backoff where
  config : BackoffConfig
  attempts : Nat
  delay : Duration

namespace Backoff

/-- Before the first attempt. -/
def new (config : BackoffConfig) : Backoff := { config, attempts := 0, delay := config.baseDelay }

/-- The larger of a number and one; one also for what is no number. -/
def atLeastOne (x : Float) : Float := if 1.0 ≤ x then x else 1.0

/-- The delay after a delay: grown, at most the maximum. -/
def grown (config : BackoffConfig) (delay : Duration) : Duration :=
  let product := delay.toSeconds * atLeastOne config.multiplier
  min ((Duration.ofSeconds? product).getD config.maxDelay) config.maxDelay

/-- Whether no attempt is left. -/
def isExhausted (b : Backoff) : Bool := b.config.maxAttempts ≤ b.attempts

/-- **The next attempt**: how long it waits, and where the sequence stands then. None is left once the
    configured number was made. -/
def next (b : Backoff) : Option (Duration × Backoff) :=
  if b.isExhausted then none
  else some (min b.delay b.config.maxDelay,
    { b with delay := grown b.config b.delay, attempts := b.attempts + 1 })

/-- Back to the start, after a connection was opened. -/
def reset (b : Backoff) : Backoff := new b.config

end Backoff
end LiveLog
