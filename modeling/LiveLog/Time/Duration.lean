import LiveLog.Decimal.Binary

/-!
# Spans of time

A span of time in whole nanoseconds, and its way through double arithmetic: a span as a double number
of seconds, and a double number of seconds as the nearest span.
-/

namespace LiveLog

/-- **A span of time.** -/
structure Duration where
  nanos : Nat
deriving DecidableEq, Repr

namespace Duration

instance : LE Duration := ⟨fun a b => a.nanos ≤ b.nanos⟩
instance (a b : Duration) : Decidable (a ≤ b) := inferInstanceAs (Decidable (a.nanos ≤ b.nanos))

/-- The shorter of two spans. -/
instance : Min Duration := ⟨fun a b => if a ≤ b then a else b⟩

/-- A span of milliseconds. -/
def ofMillis (ms : Nat) : Duration := ⟨ms * 1000000⟩

/-- The whole seconds of a span. -/
def seconds (d : Duration) : Nat := d.nanos / 1000000000

/-- The nanoseconds after the whole seconds. -/
def subsecond (d : Duration) : Nat := d.nanos % 1000000000

/-- The span as a double number of seconds: whole seconds and the rest, each rounded, then added. -/
def toSeconds (d : Duration) : Float :=
  (UInt64.ofNat d.seconds).toFloat + (UInt64.ofNat d.subsecond).toFloat / 1000000000.0

/-- **The span nearest to a double number of seconds.** A half goes to the even nanosecond. Numbers
    below zero, numbers that are none, and spans of `2 ^ 64` seconds or more have no span. -/
def ofSeconds? (x : Float) : Option Duration :=
  match Decimal.Reading.of x with
  | .finite negative m e =>
    let nanos :=
      if 0 ≤ e then m * 1000000000 * Nat.pow 2 e.toNat
      else Decimal.roundHalfEven (m * 1000000000) (Nat.pow 2 (-e).toNat)
    if negative && m != 0 then none
    else if 0x10000000000000000 * 1000000000 ≤ nanos then none
    else some ⟨nanos⟩
  | _ => none

end Duration
end LiveLog
