import LiveLog.Time.Calendar

/-!
# Time zones

What clocks show at an instant depends on where they hang. The other way round is less certain: a time that
clocks show may name no instant, when they are put forward over it, or two, when they are put back. So a zone is
both of these, and is taken as given: the distance of its clocks from the meridian at an instant, and the
distance of the clocks that show a time, if that is one distance only.
-/

namespace LiveLog

/-- **A time zone.** Distances are in seconds to the east, and times that are shown are written as instants. -/
structure Zone where
  /-- The distance of the clocks at an instant. -/
  distance : Instant → Int
  /-- The distance of the clocks that show a time. There is none if they never show it or do so twice. -/
  distanceShowing? : Instant → Option Int

namespace Zone

/-- The zone of the meridian. -/
def utc : Zone := { distance := fun _ => 0, distanceShowing? := fun _ => some 0 }

/-- **What clocks show** at an instant. -/
def shown (z : Zone) (t : Instant) : Instant := { t with seconds := t.seconds + z.distance t }

/-- Whether a second is on one of the days that dates are kept for. -/
def isKept (seconds : Int) : Bool :=
  (Date.mk Date.firstYear 1 1).number * 86400 ≤ seconds &&
    seconds < ((Date.mk Date.lastYear 12 31).number + 1) * 86400

/-- **The instant at which clocks show a time**, if there is exactly one. -/
def instant? (z : Zone) (shown : Instant) : Option Instant := do
  let distance ← z.distanceShowing? shown
  let seconds := shown.seconds - distance
  if isKept seconds then some { shown with seconds } else none

theorem nanos_shown (z : Zone) (t : Instant) : (z.shown t).nanos = t.nanos := rfl

/-- A time that is shown has the nanoseconds of its instant. -/
theorem nanos_of_instant? {z : Zone} {shown t : Instant} (h : z.instant? shown = some t) :
    t.nanos = shown.nanos := by
  obtain ⟨distance, -, hkept⟩ := Option.bind_eq_some_iff.mp h
  rw [← Option.some.inj (Option.ite_none_right_eq_some.mp hkept).2]

end Zone
end LiveLog
