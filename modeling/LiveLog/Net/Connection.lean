import LiveLog.Net.Backoff
import LiveLog.Net.ClientError
import LiveLog.Net.ConnectionState

/-!
# The streaming connection

One task owns the socket. It shakes hands, pumps frames both ways while the session lasts, and after a
session or an attempt that failed it waits and tries again, until no attempt is left or somebody closes
the connection. Others only hold a handle: they queue frames, ask for the state, and close.

The task is written as a machine. Its **phase** says at which point it waits, an `Occurrence` is what it
can meet there, and `step` gives its whole reaction up to the next point of waiting. Of several things
that could happen at one point any may come first, so a run is any list of occurrences that `step`
accepts. In particular, a connection that was closed may still take another step before it notices.

What the task does to the world comes out as a list of effects, and the published state is always the
last one published.
-/

namespace LiveLog

/-- **What a connection tells its owner.** -/
inductive TransportEvent where
  | stateChanged (state : ConnectionState)
  /-- Another attempt will be made after a delay. -/
  | reconnectScheduled (attempt maxAttempts : Nat) (delay : Duration)
  /-- A frame arrived. -/
  | frame (text : String)
deriving DecidableEq, Repr

/-- What arrives on the socket. -/
inductive Message where
  | text (s : String)
  | binary (bytes : List UInt8)
  | close
  /-- Pings and their answers. -/
  | control
deriving DecidableEq, Repr

namespace Message

/-- The frame in a message, if there is one: a text, or bytes that are one in UTF-8. -/
def frame? : Message → Option String
  | .text s => some s
  | .binary bytes => String.fromUTF8? (ByteArray.mk bytes.toArray)
  | _ => none

end Message

/-- Where the task waits. -/
inductive Phase where
  /-- Made, not yet run. -/
  | fresh
  | handshaking
  | session
  | waiting
  | done
deriving DecidableEq, Repr

/-- **The connection**: the task with its queue, and what handles can see of it. -/
structure Connection where
  backoff : Backoff
  phase : Phase := .fresh
  /-- The published state. -/
  state : ConnectionState := .connecting
  /-- Whether somebody closed the connection. -/
  closed : Bool := false
  /-- Whether anybody still holds a handle. -/
  held : Bool := true
  /-- Frames that were accepted and not yet written. -/
  outbound : List String := []

/-- What the task does to the world. -/
inductive Effect where
  | publish (event : TransportEvent)
  /-- A text goes out on the socket. -/
  | write (text : String)
  /-- The socket is told goodbye. -/
  | goodbye
deriving DecidableEq, Repr

/-- **What the task can meet at a point of waiting.** -/
inductive Occurrence where
  /-- It runs for the first time. -/
  | start
  | handshakeSucceeded
  | handshakeFailed
  | received (message : Message)
  /-- The stream of messages is over. -/
  | streamEnded
  /-- Reading from the socket fails. -/
  | readFailed
  /-- The first frame of the queue is taken; `ok` says whether the socket takes it. -/
  | takeOutbound (ok : Bool)
  /-- The delay is over. -/
  | delayElapsed
  /-- The task sees that somebody closed the connection. -/
  | noticeClose
  /-- The task sees that the queue is empty and nobody can fill it any more. -/
  | noticeUnheld
deriving DecidableEq, Repr

namespace Connection

/-- A new connection; the task has not run yet. -/
def new (config : BackoffConfig) : Connection := { backoff := Backoff.new config }

/-! ## 1. What handles do -/

/-- **Queues a frame**, if the state is open. The queue is gone once the task is done. -/
def send (c : Connection) (text : String) : Outcome Unit × Connection :=
  if c.state.isOpen && c.phase != .done then (.ok (), { c with outbound := c.outbound ++ [text] })
  else (.error .notConnected, c)

/-- Closes the connection. The task will notice. -/
def close (c : Connection) : Connection := { c with closed := true }

/-- The last handle is gone. -/
def release (c : Connection) : Connection := { c with held := false }

/-! ## 2. What the task does -/

/-- A reaction: the connection after it, and what it did meanwhile. -/
abbrev Reaction := Connection × List Effect

/-- Publishes a state. -/
def publish (c : Connection) (s : ConnectionState) : Reaction :=
  ({ c with state := s }, [.publish (.stateChanged s)])

/-- A new attempt begins. -/
def connect (c : Connection) : Reaction :=
  let (c, effects) := c.publish .connecting
  ({ c with phase := .handshaking }, effects)

/-- The task ends. Its queue ends with it. -/
def finish (c : Connection) (s : ConnectionState) : Reaction :=
  let (c, effects) := c.publish s
  ({ c with phase := .done, outbound := [] }, effects)

/-- **An attempt or a session is over.** The state says how; frames of the old session are dropped; then
    the next attempt is scheduled, or none is left. -/
def fall (c : Connection) (s : ConnectionState) : Reaction :=
  let (c, effects) := c.publish s
  let c := { c with outbound := [] }
  match c.backoff.next with
  | none =>
    let (c, more) := c.finish .failed
    (c, effects ++ more)
  | some (delay, backoff) =>
    ({ c with backoff, phase := .waiting },
      effects ++ [.publish (.reconnectScheduled backoff.attempts backoff.config.maxAttempts delay)])

/-- The session is ended from this side. -/
def shutdown (c : Connection) : Reaction :=
  let (c, effects) := c.finish .closed
  (c, .goodbye :: effects)

/-- A message arrives in a session. -/
def receive (c : Connection) (m : Message) : Reaction :=
  match m with
  | .close => c.fall .closed
  | m => (c, (m.frame?.map fun s => Effect.publish (.frame s)).toList)

/-- **The reaction to an occurrence**, or nothing when it cannot occur. -/
def step (c : Connection) (o : Occurrence) : Option Reaction :=
  match c.phase, o with
  | .fresh, .start => some c.connect
  | .handshaking, .handshakeSucceeded =>
    some (publish { c with backoff := c.backoff.reset, phase := .session } .open)
  | .handshaking, .handshakeFailed => some (c.fall .errored)
  | .handshaking, .noticeClose => if c.closed then some (c.finish .closed) else none
  | .session, .received m => some (c.receive m)
  | .session, .streamEnded => some (c.fall .closed)
  | .session, .readFailed => some (c.fall .errored)
  | .session, .takeOutbound ok =>
    match c.outbound with
    | [] => none
    | text :: rest =>
      if ok then some ({ c with outbound := rest }, [.write text])
      else some (c.fall .errored)
  | .session, .noticeClose => if c.closed then some c.shutdown else none
  | .session, .noticeUnheld =>
    if !c.held && c.outbound.isEmpty then some c.shutdown else none
  | .waiting, .delayElapsed => some c.connect
  | .waiting, .noticeClose => if c.closed then some (c.finish .closed) else none
  | _, _ => none

end Connection

/-- The events among effects. -/
def Effect.events (effects : List Effect) : List TransportEvent :=
  effects.filterMap fun
    | .publish e => some e
    | _ => none

end LiveLog
