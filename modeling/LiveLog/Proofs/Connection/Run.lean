import LiveLog.Net.Connection

/-!
# Runs of the connection

A connection has two sides. Its task meets what comes at its point of waiting, and holders of a handle
close it, let it go, or queue a frame, at any moment. A **`Turn`** is one such thing, a run is any list of
turns, and nothing is said about their order: of several things that are ready the task may meet any,
also after somebody closed the connection. A turn that cannot be is nothing.

What a turn publishes are its **news**, and the news of a run are everything its owner is ever told.
`Connection.Move` lists what a turn can do, each with its guard, and `move_turn` says that the list is
complete. The theorems about runs are read off this list and never off the task itself.
-/

namespace LiveLog

/-! ## 1. Turns -/

/-- **One turn of a connection.** -/
inductive Turn where
  /-- The task meets something. -/
  | task (o : Occurrence)
  | close
  /-- The last handle is let go. -/
  | release
  | send (text : String)
deriving DecidableEq, Repr

/-- **Whether an attempt or a session is lost** by an occurrence: the handshake fails, the other side
    closes, or the socket is faulty. -/
def Occurrence.isLoss : Occurrence → Bool
  | .handshakeFailed => true
  | .received .close => true
  | .streamEnded => true
  | .readFailed => true
  | .takeOutbound false => true
  | _ => false

namespace Connection

/-- **The reaction to a turn.** -/
def turn (c : Connection) : Turn → Reaction
  | .task o => (c.step o).getD (c, [])
  | .close => (c.close, [])
  | .release => (c.release, [])
  | .send text => ((c.send text).2, [])

/-- What a turn publishes. -/
def news (c : Connection) (t : Turn) : List TransportEvent := Effect.events (c.turn t).2

/-- Whether a connection loses its attempt or its session in a turn. -/
def losesBy (c : Connection) : Turn → Bool
  | .task o => o.isLoss && (c.step o).isSome
  | _ => false

/-- **The connection after a run.** -/
def after (c : Connection) (ts : List Turn) : Connection := ts.foldl (fun c t => (c.turn t).1) c

/-- **What a run publishes**, in order. -/
def events (c : Connection) : List Turn → List TransportEvent
  | [] => []
  | t :: rest => c.news t ++ events (c.turn t).1 rest

theorem after_append (c : Connection) (ts us : List Turn) : c.after (ts ++ us) = (c.after ts).after us :=
  List.foldl_append

theorem events_append (c : Connection) (ts us : List Turn) :
    c.events (ts ++ us) = c.events ts ++ (c.after ts).events us := by
  induction ts generalizing c with
  | nil => rfl
  | cons t rest ih =>
    have hrest := ih (c.turn t).1
    rw [List.cons_append, events, events, hrest, List.append_assoc]
    rfl

/-- The turn in which an event is published. -/
theorem exists_turn_of_events {c : Connection} {ts : List Turn} {before after : List TransportEvent}
    {e : TransportEvent} (h : c.events ts = before ++ e :: after) :
    ∃ us t, us ++ [t] <+: ts ∧ c.events us <+: before ∧ before ++ [e] <+: c.events (us ++ [t]) := by
  induction ts generalizing c before with
  | nil => exact absurd h (by simp [events])
  | cons t rest ih =>
    rw [events] at h
    by_cases hlength : before.length < (c.news t).length
    · refine ⟨[], t, ⟨rest, rfl⟩, List.nil_prefix, ?_⟩
      have hone : c.events ([] ++ [t]) = c.news t := by simp [events]
      have hevent : before ++ [e] <+: before ++ e :: after := ⟨after, List.append_assoc _ _ _⟩
      rw [hone]
      refine List.prefix_of_prefix_length_le hevent ⟨_, h⟩ ?_
      rw [List.length_append, List.length_singleton]
      exact hlength
    · have hnews : c.news t <+: before ++ e :: after := ⟨_, h⟩
      obtain ⟨before', rfl⟩ :=
        List.prefix_of_prefix_length_le hnews (List.prefix_append before (e :: after)) (by omega)
      rw [List.append_assoc, List.append_cancel_left_eq] at h
      obtain ⟨us, u, hus, hbefore, hafter⟩ := ih h
      refine ⟨t :: us, u, List.cons_prefix_cons.mpr ⟨rfl, hus⟩, ?_, ?_⟩
      · exact (List.prefix_append_right_inj _).mpr hbefore
      · rw [List.append_assoc]
        exact (List.prefix_append_right_inj _).mpr hafter

/-! ## 2. What a turn can do -/

/-- Whether a connection can lose what it has and then be in a state. An attempt is lost by a fault only. -/
def LosesTo (c : Connection) (state : ConnectionState) : Prop :=
  (c.phase = .handshaking ∧ state = .errored) ∨
  (c.phase = .session ∧ (state = .closed ∨ state = .errored))

theorem LosesTo.eq_or_eq {c : Connection} {state : ConnectionState} (h : c.LosesTo state) :
    state = .closed ∨ state = .errored := by
  rcases h with ⟨_, hstate⟩ | ⟨_, hstate⟩
  · exact .inr hstate
  · exact hstate

/-- **What a turn can do**: where it leads, and its news. -/
inductive Move (c : Connection) (t : Turn) : Connection → List TransportEvent → Prop
  /-- At most the queue and the handles are other than before. -/
  | stays (held : Bool) (outbound : List String) (hkept : c.losesBy t = false) (hclose : t ≠ .close) :
      Move c t { c with held, outbound } []
  | closes (hclose : t = .close) : Move c t { c with closed := true } []
  | hears (text : String) (hphase : c.phase = .session) (hkept : c.losesBy t = false) (hclose : t ≠ .close) :
      Move c t c [.frame text]
  | connects (hphase : c.phase = .fresh ∨ c.phase = .waiting) (hkept : c.losesBy t = false)
      (hclose : t ≠ .close) :
      Move c t { c with phase := .handshaking, state := .connecting } [.stateChanged .connecting]
  | opens (hphase : c.phase = .handshaking) (hturn : t = .task .handshakeSucceeded) :
      Move c t { c with phase := .session, state := .open, backoff := c.backoff.reset } [.stateChanged .open]
  /-- What was lost is tried again after a delay. -/
  | retries (state : ConnectionState) (hlost : c.LosesTo state) (delay : Duration) (backoff : Backoff)
      (hnext : c.backoff.next = some (delay, backoff)) (hloses : c.losesBy t = true) (hclose : t ≠ .close) :
      Move c t { c with phase := .waiting, state, backoff, outbound := [] }
        [.stateChanged state, .reconnectScheduled backoff.attempts backoff.config.maxAttempts delay]
  /-- No attempt is left. -/
  | givesUp (state : ConnectionState) (hlost : c.LosesTo state) (hnext : c.backoff.next = none)
      (hloses : c.losesBy t = true) (hclose : t ≠ .close) :
      Move c t { c with phase := .done, state := .failed, outbound := [] }
        [.stateChanged state, .stateChanged .failed]
  /-- The task ends from this side, outside a session only after a close. -/
  | ends (hphase : c.phase = .session ∨ ((c.phase = .handshaking ∨ c.phase = .waiting) ∧ c.closed = true))
      (hkept : c.losesBy t = false) (hclose : t ≠ .close) :
      Move c t { c with phase := .done, state := .closed, outbound := [] } [.stateChanged .closed]

theorem fall_of_none {c : Connection} (state : ConnectionState) (hnext : c.backoff.next = none) :
    c.fall state = ({ c with phase := .done, state := .failed, outbound := [] },
      [.publish (.stateChanged state), .publish (.stateChanged .failed)]) := by
  rw [fall]
  dsimp only [publish]
  rw [hnext]
  rfl

theorem fall_of_some {c : Connection} (state : ConnectionState) {delay : Duration} {backoff : Backoff}
    (hnext : c.backoff.next = some (delay, backoff)) :
    c.fall state = ({ c with phase := .waiting, state, backoff, outbound := [] },
      [.publish (.stateChanged state),
        .publish (.reconnectScheduled backoff.attempts backoff.config.maxAttempts delay)]) := by
  rw [fall]
  dsimp only [publish]
  rw [hnext]
  rfl

/-- **Losing an attempt or a session** leads to the next attempt, or to the end if none is left. -/
theorem move_fall {c : Connection} {t : Turn} {state : ConnectionState} (hlost : c.LosesTo state)
    (hloses : c.losesBy t = true) (hclose : t ≠ .close) :
    Move c t (c.fall state).1 (Effect.events (c.fall state).2) := by
  cases hnext : c.backoff.next with
  | none =>
    rw [fall_of_none state hnext]
    exact .givesUp state hlost hnext hloses hclose
  | some next =>
    rw [fall_of_some state hnext]
    exact .retries state hlost next.1 next.2 hnext hloses hclose

/-- A message that arrives is a frame, or nothing, or the end of the session. -/
theorem move_receive {c : Connection} (hphase : c.phase = .session) (message : Message)
    (hloses : c.losesBy (.task (.received message)) = (Occurrence.received message).isLoss) :
    Move c (.task (.received message)) (c.receive message).1 (Effect.events (c.receive message).2) := by
  have hclose : Turn.task (.received message) ≠ .close := by simp
  cases message with
  | close => exact move_fall (.inr ⟨hphase, .inl rfl⟩) hloses hclose
  | text s => exact .hears s hphase hloses hclose
  | control => exact .stays c.held c.outbound hloses hclose
  | binary bytes =>
    have hreceive : c.receive (.binary bytes)
        = (c, ((Message.frame? (.binary bytes)).map fun s => Effect.publish (.frame s)).toList) := rfl
    rw [hreceive]
    cases Message.frame? (.binary bytes) with
    | none => exact .stays c.held c.outbound hloses hclose
    | some s => exact .hears s hphase hloses hclose

/-- What the task does, row by row of its table. -/
theorem move_step {c : Connection} {o : Occurrence} {r : Reaction} (h : c.step o = some r) :
    Move c (.task o) r.1 (Effect.events r.2) := by
  have hclose : Turn.task o ≠ .close := by simp
  have hloses : c.losesBy (.task o) = o.isLoss := by rw [losesBy, h, Option.isSome_some, Bool.and_true]
  unfold step at h
  split at h
  case h_1 hphase =>
    obtain rfl := Option.some.inj h
    exact .connects (.inl hphase) hloses hclose
  case h_2 hphase =>
    obtain rfl := Option.some.inj h
    exact .opens hphase rfl
  case h_3 hphase =>
    obtain rfl := Option.some.inj h
    exact move_fall (.inl ⟨hphase, rfl⟩) hloses hclose
  case h_4 hphase =>
    split at h
    case isTrue hclosed =>
      obtain rfl := Option.some.inj h
      exact .ends (.inr ⟨.inl hphase, hclosed⟩) hloses hclose
    case isFalse => exact absurd h (by simp)
  case h_5 message hphase =>
    obtain rfl := Option.some.inj h
    exact move_receive hphase message hloses
  case h_6 hphase =>
    obtain rfl := Option.some.inj h
    exact move_fall (.inr ⟨hphase, .inl rfl⟩) hloses hclose
  case h_7 hphase =>
    obtain rfl := Option.some.inj h
    exact move_fall (.inr ⟨hphase, .inr rfl⟩) hloses hclose
  case h_8 ok hphase =>
    -- Taking from the queue is a loss only if the socket does not take the frame.
    cases houtbound : c.outbound with
    | nil =>
      rw [houtbound] at h
      exact absurd h (by simp)
    | cons text rest =>
      rw [houtbound] at h
      cases ok with
      | true =>
        obtain rfl := Option.some.inj h
        exact .stays c.held rest hloses hclose
      | false =>
        obtain rfl := Option.some.inj h
        exact move_fall (.inr ⟨hphase, .inr rfl⟩) hloses hclose
  case h_9 hphase =>
    split at h
    case isTrue =>
      obtain rfl := Option.some.inj h
      exact .ends (.inl hphase) hloses hclose
    case isFalse => exact absurd h (by simp)
  case h_10 hphase =>
    split at h
    case isTrue =>
      obtain rfl := Option.some.inj h
      exact .ends (.inl hphase) hloses hclose
    case isFalse => exact absurd h (by simp)
  case h_11 hphase =>
    obtain rfl := Option.some.inj h
    exact .connects (.inr hphase) hloses hclose
  case h_12 hphase =>
    split at h
    case isTrue hclosed =>
      obtain rfl := Option.some.inj h
      exact .ends (.inr ⟨.inr hphase, hclosed⟩) hloses hclose
    case isFalse => exact absurd h (by simp)
  case h_13 => exact absurd h (by simp)

/-- **Every turn is a move.** -/
theorem move_turn (c : Connection) (t : Turn) : Move c t (c.turn t).1 (c.news t) := by
  cases t with
  | close => exact .closes rfl
  | release => exact .stays false c.outbound rfl (by simp)
  | send text =>
    rw [news, turn, send]
    split
    case isTrue => exact .stays c.held (c.outbound ++ [text]) rfl (by simp)
    case isFalse => exact .stays c.held c.outbound rfl (by simp)
  | task o =>
    rw [news, turn]
    cases hstep : c.step o with
    | none => exact .stays c.held c.outbound (by rw [losesBy, hstep, Option.isSome_none, Bool.and_false]) (by simp)
    | some r => exact move_step hstep

end Connection
end LiveLog
