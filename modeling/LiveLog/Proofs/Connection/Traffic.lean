import LiveLog.Proofs.Connection.Run

/-!
# What passes over the stream

A run of a connection is seen here from the socket: which texts were accepted for it and which went out,
which messages were taken from it and of which frames the owner was told (`Traffic`). `Connection.Passes`
lists what a turn can do to this, and to the queue. It is a coarser list than that of the moves, and it
says what that one leaves out: in a session, a turn that leaves it also drops the queue.
-/

namespace LiveLog

/-! ## 1. Traffic -/

/-- **What passes over the stream**, each kind in its order. -/
structure Traffic where
  /-- Texts that were accepted for sending. -/
  accepted : List String := []
  /-- Texts that went out on the socket. -/
  written : List String := []
  /-- Messages that were taken from the socket. -/
  taken : List Message := []
  /-- Frames that the owner was told of. -/
  heard : List String := []
deriving DecidableEq, Repr

namespace Traffic

instance : Append Traffic where
  append p q :=
    { accepted := p.accepted ++ q.accepted, written := p.written ++ q.written,
      taken := p.taken ++ q.taken, heard := p.heard ++ q.heard }

@[simp] theorem accepted_append (p q : Traffic) : (p ++ q).accepted = p.accepted ++ q.accepted := rfl

@[simp] theorem written_append (p q : Traffic) : (p ++ q).written = p.written ++ q.written := rfl

@[simp] theorem taken_append (p q : Traffic) : (p ++ q).taken = p.taken ++ q.taken := rfl

@[simp] theorem heard_append (p q : Traffic) : (p ++ q).heard = p.heard ++ q.heard := rfl

end Traffic

namespace TransportEvent

/-- The frame that an event tells of. -/
def text? : TransportEvent → Option String
  | .frame text => some text
  | _ => none

end TransportEvent

/-- The texts that effects write. -/
def Effect.texts (effects : List Effect) : List String :=
  effects.filterMap fun
    | .write text => some text
    | _ => none

/-- The message in an occurrence. -/
def Occurrence.message? : Occurrence → Option Message
  | .received m => some m
  | _ => none

namespace Connection

/-- The text that a turn has accepted. -/
def accepts (c : Connection) : Turn → List String
  | .send text => if (c.send text).1.isOk then [text] else []
  | _ => []

/-- The message that a turn takes from the socket. -/
def takes (c : Connection) : Turn → List Message
  | .task o => if (c.step o).isSome then o.message?.toList else []
  | _ => []

/-- What passes over the stream in a turn. -/
def traffic (c : Connection) (t : Turn) : Traffic where
  accepted := c.accepts t
  written := Effect.texts (c.turn t).2
  taken := c.takes t
  heard := (c.news t).filterMap TransportEvent.text?

/-- **What passes over the stream in a run.** -/
def trafficIn (c : Connection) : List Turn → Traffic
  | [] => {}
  | t :: rest => c.traffic t ++ trafficIn (c.turn t).1 rest

theorem heard_trafficIn (c : Connection) (ts : List Turn) :
    (c.trafficIn ts).heard = (c.events ts).filterMap TransportEvent.text? := by
  induction ts generalizing c with
  | nil => rfl
  | cons t rest ih =>
    rw [trafficIn, Traffic.heard_append, events, List.filterMap_append, ih]
    rfl

/-! ## 2. What a turn can do to the stream -/

/-- **What a turn can do to the stream**: where it leads, and what passes. -/
inductive Passes (c : Connection) (t : Turn) : Connection → Traffic → Prop
  | rests (closed held : Bool) : Passes c t { c with closed, held } {}
  | accepts (text : String) (hopen : c.state = .open) :
      Passes c t { c with outbound := c.outbound ++ [text] } { accepted := [text] }
  | writes (text : String) (rest : List String) (hphase : c.phase = .session)
      (houtbound : c.outbound = text :: rest) :
      Passes c t { c with outbound := rest } { written := [text] }
  | takes (m : Message) (hphase : c.phase = .session) :
      Passes c t c { taken := [m], heard := m.frame?.toList }
  | opens (backoff : Backoff) (hphase : c.phase = .handshaking) (hnews : .stateChanged .open ∈ c.news t) :
      Passes c t { c with phase := .session, state := .open, backoff } {}
  /-- A session ends, perhaps with a message that says so, and the queue is dropped. -/
  | breaks (phase : Phase) (state : ConnectionState) (backoff : Backoff) (taken : List Message)
      (hphase : c.phase = .session) (hleft : phase ≠ .session) (hstate : state ≠ .open)
      (htaken : taken.filterMap Message.frame? = []) :
      Passes c t { c with phase, state, backoff, outbound := [] } { taken }
  /-- Outside a session anything may happen but an opening. -/
  | moves (phase : Phase) (state : ConnectionState) (backoff : Backoff) (outbound : List String)
      (hphase : c.phase ≠ .session) (hleft : phase ≠ .session) (hstate : state ≠ .open)
      (houtbound : outbound = [] ∨ outbound = c.outbound) :
      Passes c t { c with phase, state, backoff, outbound } {}

theorem traffic_task {c : Connection} {o : Occurrence} {r : Reaction} (h : c.step o = some r) :
    c.traffic (.task o) =
      { written := Effect.texts r.2, taken := o.message?.toList,
        heard := (Effect.events r.2).filterMap TransportEvent.text? } := by
  simp only [traffic, accepts, takes, news, turn, h, Option.getD_some, Option.isSome_some, if_true]

/-- A loss says nothing over the stream, whatever comes of it. -/
theorem fall_eq (c : Connection) (state : ConnectionState) :
    ∃ phase after backoff effects, phase ≠ Phase.session ∧ (after = state ∨ after = .failed) ∧
      c.fall state = ({ c with phase, state := after, backoff, outbound := [] }, effects) ∧
      Effect.texts effects = [] ∧ (Effect.events effects).filterMap TransportEvent.text? = [] := by
  cases hnext : c.backoff.next with
  | none =>
    rw [fall_of_none state hnext]
    exact ⟨.done, .failed, c.backoff, _, by simp, .inr rfl, rfl, rfl, rfl⟩
  | some next =>
    rw [fall_of_some state hnext]
    exact ⟨.waiting, state, next.2, _, by simp, .inl rfl, rfl, rfl, rfl⟩

/-- **A loss on the stream.** In a session it is the end of it. -/
theorem passes_fall {c : Connection} {t : Turn} {state : ConnectionState} {taken : List Message}
    (hstate : state ≠ .open) (htaken : taken.filterMap Message.frame? = [])
    (hphase : c.phase = .session ∨ c.phase ≠ .session ∧ taken = []) :
    Passes c t (c.fall state).1
      { written := Effect.texts (c.fall state).2, taken := taken,
        heard := (Effect.events (c.fall state).2).filterMap TransportEvent.text? } := by
  obtain ⟨phase, after, backoff, effects, hleft, hafter, hfall, htexts, hheard⟩ := c.fall_eq state
  have hclosed : after ≠ .open := by
    rcases hafter with rfl | rfl
    · exact hstate
    · simp
  rw [hfall]
  dsimp only
  rw [htexts, hheard]
  rcases hphase with hphase | ⟨hphase, rfl⟩
  · exact .breaks phase after backoff taken hphase hleft hclosed htaken
  · exact .moves phase after backoff [] hphase hleft hclosed (.inl rfl)

theorem passes_receive {c : Connection} (hphase : c.phase = .session) (message : Message) :
    Passes c (.task (.received message)) (c.receive message).1
      { written := Effect.texts (c.receive message).2, taken := [message],
        heard := (Effect.events (c.receive message).2).filterMap TransportEvent.text? } := by
  have htakes := Passes.takes (t := .task (.received message)) message hphase
  cases message with
  | close => exact passes_fall (by decide) rfl (.inl hphase)
  | text s => exact htakes
  | control => exact htakes
  | binary bytes =>
    have hreceive : c.receive (.binary bytes)
        = (c, ((Message.frame? (.binary bytes)).map fun s => Effect.publish (.frame s)).toList) := rfl
    rw [hreceive]
    -- Bytes that are no text are taken all the same, and nobody hears of them.
    cases hframe : Message.frame? (.binary bytes) with
    | none =>
      rw [hframe] at htakes
      exact htakes
    | some s =>
      rw [hframe] at htakes
      exact htakes

/-- What the task does to the stream, row by row of its table. -/
theorem passes_step {c : Connection} {o : Occurrence} {r : Reaction} (h : c.step o = some r) :
    Passes c (.task o) r.1 (c.traffic (.task o)) := by
  have hnews : c.news (.task o) = Effect.events r.2 := by rw [news, turn, h, Option.getD_some]
  rw [traffic_task h]
  unfold step at h
  split at h
  case h_1 hphase | h_11 hphase =>
    obtain rfl := Option.some.inj h
    exact .moves .handshaking .connecting c.backoff c.outbound (by simp [hphase]) (by decide) (by decide)
      (.inr rfl)
  case h_2 hphase =>
    obtain rfl := Option.some.inj h
    refine .opens c.backoff.reset hphase ?_
    rw [hnews]
    exact List.mem_singleton.mpr rfl
  case h_3 hphase =>
    obtain rfl := Option.some.inj h
    exact passes_fall (by decide) rfl (.inr ⟨by simp [hphase], rfl⟩)
  case h_4 hphase | h_12 hphase =>
    split at h
    case isTrue =>
      obtain rfl := Option.some.inj h
      exact .moves .done .closed c.backoff [] (by simp [hphase]) (by decide) (by decide) (.inl rfl)
    case isFalse => exact absurd h (by simp)
  case h_5 message hphase =>
    obtain rfl := Option.some.inj h
    exact passes_receive hphase message
  case h_6 hphase | h_7 hphase =>
    obtain rfl := Option.some.inj h
    exact passes_fall (by decide) rfl (.inl hphase)
  case h_8 ok hphase =>
    cases houtbound : c.outbound with
    | nil =>
      rw [houtbound] at h
      exact absurd h (by simp)
    | cons text rest =>
      rw [houtbound] at h
      cases ok with
      | true =>
        obtain rfl := Option.some.inj h
        exact .writes text rest hphase houtbound
      | false =>
        -- The text that the socket does not take is dropped with the rest of the queue.
        obtain rfl := Option.some.inj h
        exact passes_fall (by decide) rfl (.inl hphase)
  case h_9 hphase | h_10 hphase =>
    split at h
    case isTrue =>
      obtain rfl := Option.some.inj h
      exact .breaks .done .closed c.backoff [] hphase (by decide) (by decide) rfl
    case isFalse => exact absurd h (by simp)
  case h_13 => exact absurd h (by simp)

/-- **A text is accepted exactly while the state is open**, and only then does anything change. -/
theorem send_eq {c : Connection} (hdone : c.phase = .done → c.state ≠ .open) (text : String) :
    c.send text = if c.state = .open then (.ok (), { c with outbound := c.outbound ++ [text] })
      else (.error .notConnected, c) := by
  unfold send
  by_cases hopen : c.state = .open
  · have hrunning : c.phase ≠ .done := fun hphase => hdone hphase hopen
    simp [hopen, hrunning, ConnectionState.isOpen]
  · simp [hopen, ConnectionState.isOpen]

theorem passes_turn {c : Connection} (hdone : c.phase = .done → c.state ≠ .open) (t : Turn) :
    Passes c t (c.turn t).1 (c.traffic t) := by
  cases t with
  | close => exact .rests true c.held
  | release => exact .rests c.closed false
  | send text =>
    have hsend := send_eq hdone text
    have htraffic : c.traffic (.send text)
        = { accepted := if (c.send text).1.isOk then [text] else [] } := rfl
    rw [htraffic, turn, hsend]
    by_cases hopen : c.state = .open
    · rw [if_pos hopen]
      exact .accepts text hopen
    · rw [if_neg hopen]
      exact .rests c.closed c.held
  | task o =>
    cases hstep : c.step o with
    | none =>
      have htraffic : c.traffic (.task o) = {} := by
        simp [traffic, accepts, takes, news, turn, hstep, Effect.texts, Effect.events]
      rw [htraffic, turn, hstep]
      exact .rests c.closed c.held
    | some r =>
      have hpasses := passes_step hstep
      rw [turn, hstep]
      exact hpasses

end Connection
end LiveLog
