import LiveLog.Time.Duration

/-!
# Notifications

Short messages to the user, each shown for the same lifetime. They form a queue: a message enters at the
end, leaves early only as the oldest one, and otherwise when its lifetime is over.

Moments are spans of time since the viewer was started. A message whose moment lies ahead counts as
just shown.
-/

namespace LiveLog

/-- What a message is about. -/
inductive NotificationKind where
  | info
  | success
  | warning
  | error
deriving DecidableEq, Repr

/-- **A message to the user.** -/
structure Notification where
  kind : NotificationKind
  message : String
  shownAt : Duration
deriving DecidableEq, Repr

/-- Whether a message is still within its lifetime. -/
def Notification.isCurrent (n : Notification) (lifetime now : Duration) : Bool :=
  now.nanos - n.shownAt.nanos < lifetime.nanos

/-- **The queue of messages**, oldest first. -/
structure Notifications where
  lifetime : Duration := .ofMillis 3000
  items : List Notification := []
deriving DecidableEq, Repr

namespace Notifications

/-- A message enters the queue. -/
def push (q : Notifications) (kind : NotificationKind) (message : String) (now : Duration) :
    Notifications :=
  { q with items := q.items ++ [{ kind, message, shownAt := now }] }

/-- **Messages whose lifetime is over leave**; the answer says whether there were any. -/
def expire (q : Notifications) (now : Duration) : Bool × Notifications :=
  let items := q.items.filter (·.isCurrent q.lifetime now)
  (items.length != q.items.length, { q with items })

/-- The oldest message leaves; the answer says whether there was one. -/
def dismiss (q : Notifications) : Bool × Notifications :=
  (!q.items.isEmpty, { q with items := q.items.tail })

/-- Whether nothing is shown. -/
def isEmpty (q : Notifications) : Bool := q.items.isEmpty

end Notifications
end LiveLog
