import LiveLog.Net.Connection
import LiveLog.Net.Service

/-!
# A server out of reach

What a client goes through while nothing reaches its server: no handshake succeeds, no web request gets a
reply, and only the delays between attempts take time. Nothing else happens in such a world, so it runs
nearly by itself.

A handshake fails at once, so whenever the task runs it goes on until it waits for a delay. A delay is never
over when the task begins to wait for it, so there a close is noticed. What is left open is one choice: of a
close and a handshake that failed, both at hand, the task may meet either. That choice is an argument of the
world, and with it what comes next is determined.

The events of the connection are queued until somebody takes them. Whoever waits for an event has
patience for some time only.
-/

namespace LiveLog

/-- **A connection whose server is out of reach**, with the events that nobody took yet. -/
structure Outage where
  connection : Connection
  /-- Whether the task meets a close before a handshake that failed, where both are at hand. -/
  heedsClose : Bool := false
  unread : List TransportEvent := []
  /-- The delay before the attempt that is coming. -/
  delay : Duration := ⟨0⟩

namespace Outage

/-- A connection that was just made. -/
def start (config : BackoffConfig) (heedsClose : Bool := false) : Outage :=
  { connection := Connection.new config, heedsClose }

/-- The delay that events announce, or else the one before. -/
def delayIn (before : Duration) (events : List TransportEvent) : Duration :=
  events.foldl (fun d e => match e with
    | .reconnectScheduled _ _ delay => delay
    | _ => d) before

/-- What comes next. A handshake fails before anything else, but for a close that is heeded; a close is noticed
    before a delay is over. -/
def occurrence (o : Outage) : Occurrence :=
  match o.connection.phase with
  | .fresh => .start
  | .handshaking => if o.connection.closed && o.heedsClose then .noticeClose else .handshakeFailed
  | _ => if o.connection.closed then .noticeClose else .delayElapsed

/-- The milliseconds until then. Even the shortest delay takes one. -/
def waitingTime (o : Outage) : Nat :=
  if o.occurrence = .delayElapsed then max ((o.delay.nanos + 999999) / 1000000) 1 else 0

/-- The world after what comes next, or nothing if the connection is done. -/
def advance (o : Outage) : Option Outage :=
  (o.connection.step o.occurrence).map fun (connection, effects) =>
    let events := Effect.events effects
    { o with connection, unread := o.unread ++ events, delay := delayIn o.delay events }

/-- Goes on, unless it is a delay that comes next. -/
def settle (o : Outage) : Outage := if o.occurrence = .delayElapsed then o else o.advance.getD o

/-- **The world after the task has run once**, or nothing if the connection is done. At most two things
    follow the first: the handshake fails, and a close is noticed. -/
def next (o : Outage) : Option Outage := o.advance.map fun o => o.settle.settle

/-- **Takes events up to the first one that was waited for**, or all of them to the end, which leaves no
    connection. There is nothing when patience runs out. One millisecond sees three turns at most. -/
def takeUntil (wanted : TransportEvent → Bool) :
    (turns patience : Nat) → Outage → Option (List TransportEvent × Bool × Outage)
  | 0, _, _ => none
  | turns + 1, patience, o =>
    match o.unread.span fun e => !wanted e with
    | (before, e :: rest) => some (before ++ [e], true, { o with unread := rest })
    | (before, []) =>
      let o := { o with unread := [] }
      if patience < o.waitingTime then none
      else
        match o.next with
        | none => some (before, false, o)
        | some later =>
          (takeUntil wanted turns (patience - o.waitingTime) later).map fun (events, found, o) =>
            (before ++ events, found, o)

/-- **Waits for an event**, with patience for some milliseconds: the events up to it and whether it came,
    or nothing when patience runs out. -/
def await (wanted : TransportEvent → Bool) (patience : Nat) (o : Outage) :
    Option (List TransportEvent × Bool × Outage) :=
  takeUntil wanted (3 * (patience + 1) + 2) patience o

/-- What a call comes to. -/
def call (o : Outage) (op : Operation) (e : Endpoints) (ms : Nat) : Outcome Answer :=
  (op.call e ms o.connection.state (fun _ _ => .error .notConnected)
    fun _ => .error .unreachable).outcome

end Outage
end LiveLog
