import LiveLog.Net.ConnectionState
import LiveLog.Net.Frame
import LiveLog.Net.Request

/-!
# Correlation of requests and responses

A request gets a number of its own and an entry in the table of pending requests. The entry leaves the
table in one of three ways: a response with its number arrives, its time runs out, or its caller goes
away. Whoever removes the entry decides the outcome, so a request has one outcome however many
responses carry its number.

An outcome is laid down for the caller, who picks it up when it runs again (`collect`). Between the two
other steps may happen, and that is why a timer that fires looks for an outcome before it declares the
time to be up (`expire`).

Every function here is one step that nothing can interrupt.
-/

namespace LiveLog

/-- What stands for a request while it is under way: the number it was given, and its kind. -/
structure Ticket where
  id : Nat
  kind : RequestKind
deriving DecidableEq, Repr

/-- **The table of pending requests**, the outcomes that wait for their callers, and the next number. -/
structure Correlator where
  nextId : Nat := 1
  /-- The tickets under their numbers, the oldest request first. -/
  pending : List (Nat × Ticket) := []
  delivered : List (Nat × Outcome Json) := []
deriving Repr

namespace Ticket

/-- The fault that a request took too long. -/
def timedOut (t : Ticket) (ms : Nat) : ClientError :=
  .timeout ms (t.kind.name ++ " request " ++ toString t.id)

end Ticket

namespace Correlator

/-- How many requests are pending. -/
def pendingCount (c : Correlator) : Nat := c.pending.length

/-- Whether the table has an entry of this number. -/
def isPending (c : Correlator) (id : Nat) : Bool := c.pending.any (·.1 == id)

/-- The table without the entry of a number. -/
def forget (c : Correlator) (id : Nat) : Correlator :=
  { c with pending := c.pending.filter (·.1 != id) }

/-- The outcome laid down for a caller. -/
def outcome? (c : Correlator) (id : Nat) : Option (Outcome Json) := c.delivered.lookup id

/-- What a call comes to at once: a frame to send and a ticket to wait with, or a fault. -/
abbrev Issued := Outcome (Ticket × RequestFrame)

/-- **A request is made.** Unless the connection is open nothing happens but the fault. If the queue of
    the connection takes no frame, the number is spent all the same and the entry is gone again. -/
def issue (c : Correlator) (state : ConnectionState) (takes : Bool) (kind : RequestKind) (data : Json)
    (timestamp : String) : Issued × Correlator :=
  if !state.isOpen then (.error .notConnected, c)
  else
    let id := c.nextId
    let ticket : Ticket := { id, kind }
    let entered := { c with nextId := id + 1, pending := c.pending ++ [(id, ticket)] }
    if takes then (.ok (ticket, { kind, id, data, timestamp }), entered)
    else (.error .notConnected, entered.forget id)

/-- **A response arrives.** It settles the pending request of its number; without one it is nothing. -/
def resolve (c : Correlator) (r : Response) : Bool × Correlator :=
  if c.isPending r.id then
    (true, { c.forget r.id with delivered := (r.id, r.outcome) :: c.delivered })
  else (false, c)

/-- The request's caller is done: no entry and no outcome of its number stays behind. -/
def abandon (c : Correlator) (id : Nat) : Correlator :=
  { c.forget id with delivered := c.delivered.filter (·.1 != id) }

/-- **The caller runs again**: it takes its outcome, if there is one. -/
def collect (c : Correlator) (t : Ticket) : Option (Outcome Json × Correlator) :=
  (c.outcome? t.id).map fun o => (o, c.abandon t.id)

/-- **The caller's time is up.** An outcome that is there already still counts. -/
def expire (c : Correlator) (t : Ticket) (ms : Nat) : Outcome Json × Correlator :=
  match c.outcome? t.id with
  | some o => (o, c.abandon t.id)
  | none => (.error (t.timedOut ms), c.abandon t.id)

end Correlator
end LiveLog
