import LiveLog.Proofs.Connection.Traffic

/-!
# Sessions of a connection

One queue serves all sessions of a connection. A text that was accepted in one session and not written
must not go out in the next, and nothing in the queue says to which session a text belongs. What keeps
the sessions apart is an order of events: the state is published before the queue is emptied, and
`send` asks the state.

The queue is accounted for as any queue is: **what is queued and what is accepted is what is written and
what stays queued**, as long as no session ends (`Passes.conserves`). A session that ends breaks this
balance by dropping the queue, and outside a session there is nothing to balance (`Synced.silent`). So
the account is drawn up from one opening to the next.

That a text is not written in a later session is a statement about the text and not about what it says:
the same words may be sent again. It is put as a comparison of runs. Two runs that differ in the texts that
were sent lead to one and the same connection as soon as no session is open (`after_eq_of_mask`), so
whatever is written later has nothing to do with them.
-/

namespace LiveLog
namespace Connection

/-! ## 1. The account of a session -/

/-- **A connection in step with its stream**: it is open exactly in a session, and outside of one nothing
    is queued. -/
structure Synced (c : Connection) : Prop where
  open_iff : c.state = .open ↔ c.phase = .session
  outbound : c.state ≠ .open → c.outbound = []

section Passes

variable {c c' : Connection} {t : Turn} {p : Traffic}

/-- **Every turn keeps the step.** The queue is emptied by the same turn that leaves the session. -/
theorem Passes.synced (h : Passes c t c' p) (hsynced : Synced c) : Synced c' := by
  cases h with
  | rests closed held => exact ⟨hsynced.open_iff, hsynced.outbound⟩
  | takes m hphase => exact hsynced
  | accepts text hopen => exact ⟨hsynced.open_iff, fun hclosed => absurd hopen hclosed⟩
  | writes text rest hphase houtbound =>
    exact ⟨hsynced.open_iff, fun hclosed => absurd (hsynced.open_iff.mpr hphase) hclosed⟩
  | opens backoff hphase hnews => exact ⟨by simp, fun hclosed => absurd rfl hclosed⟩
  | breaks phase state backoff taken hphase hleft hstate htaken =>
    exact ⟨by simp [hleft, hstate], fun _ => rfl⟩
  | moves phase state backoff outbound hphase hleft hstate houtbound =>
    refine ⟨by simp [hleft, hstate], ?_⟩
    intro _
    rcases houtbound with rfl | rfl
    · rfl
    · exact hsynced.outbound fun hopen => hphase (hsynced.open_iff.mp hopen)

/-- **Outside a session nothing passes over the stream.** -/
theorem Passes.eq_empty (h : Passes c t c' p) (hsynced : Synced c) (hclosed : c.state ≠ .open) :
    p = {} := by
  have hphase : c.phase ≠ .session := fun hphase => hclosed (hsynced.open_iff.mpr hphase)
  cases h with
  | accepts text hopen => exact absurd hopen hclosed
  | writes text rest hsession houtbound => exact absurd hsession hphase
  | takes m hsession => exact absurd hsession hphase
  | breaks phase state backoff taken hsession => exact absurd hsession hphase
  | rests | opens | moves => rfl

/-- A connection that is not open stays so until it says that it is. -/
theorem Passes.state_ne_open (h : Passes c t c' p) (hclosed : c.state ≠ .open)
    (hnews : .stateChanged .open ∉ c.news t) : c'.state ≠ .open := by
  cases h with
  | opens backoff hphase hopens => exact absurd hopens hnews
  | breaks phase state backoff taken hphase hleft hstate => exact hstate
  | moves phase state backoff outbound hphase hleft hstate => exact hstate
  | rests | accepts | writes | takes => exact hclosed

/-- **Texts are conserved in a turn.** What was queued and what is accepted is what is written, what stays
    queued, and what is dropped, and nothing is dropped while the connection stays open. -/
theorem Passes.conserves (h : Passes c t c' p) :
    ∃ dropped, c.outbound ++ p.accepted = p.written ++ (c'.outbound ++ dropped) ∧
      (c'.state = .open → dropped = []) := by
  cases h with
  | rests | accepts | takes | opens => exact ⟨[], by simp, fun _ => rfl⟩
  | writes text rest hphase houtbound => exact ⟨[], by simp [houtbound], fun _ => rfl⟩
  | breaks phase state backoff taken hphase hleft hstate =>
    exact ⟨c.outbound, by simp, fun hopen => absurd hopen hstate⟩
  | moves phase state backoff outbound hphase hleft hstate houtbound =>
    rcases houtbound with rfl | rfl
    · exact ⟨c.outbound, by simp, fun hopen => absurd hopen hstate⟩
    · exact ⟨[], by simp, fun _ => rfl⟩

/-- **A frame is heard for each message taken that holds one.** -/
theorem Passes.heard_eq (h : Passes c t c' p) : p.heard = p.taken.filterMap Message.frame? := by
  cases h with
  | takes m hphase => cases hframe : m.frame? <;> simp [hframe]
  | breaks phase state backoff taken hphase hleft hstate htaken => exact htaken.symm
  | rests | accepts | writes | opens | moves => rfl

end Passes

namespace Synced

variable {c : Connection}

theorem new (config : BackoffConfig) : Synced (new config) where
  open_iff := by simp [Connection.new]
  outbound := fun _ => rfl

theorem not_open (h : Synced c) {phase : Phase} (hphase : c.phase = phase) (hne : phase ≠ .session) :
    c.state ≠ .open := by
  rw [Ne, h.open_iff, hphase]
  exact hne

theorem passes (h : Synced c) (t : Turn) : Passes c t (c.turn t).1 (c.traffic t) := by
  apply passes_turn
  intro hdone
  exact h.not_open hdone (by decide)

theorem turn (h : Synced c) (t : Turn) : Synced (c.turn t).1 := (h.passes t).synced h

theorem after (h : Synced c) (ts : List Turn) : Synced (c.after ts) := by
  induction ts generalizing c with
  | nil => exact h
  | cons t rest ih => exact ih (h.turn t)

/-- Until the next opening nothing passes. -/
theorem silent (h : Synced c) (hclosed : c.state ≠ .open) {ts : List Turn}
    (hnone : .stateChanged .open ∉ c.events ts) :
    c.trafficIn ts = {} ∧ (c.after ts).state ≠ .open := by
  induction ts generalizing c with
  | nil => exact ⟨rfl, hclosed⟩
  | cons t rest ih =>
    rw [events, List.mem_append, not_or] at hnone
    have hstate := (h.passes t).state_ne_open hclosed hnone.1
    obtain ⟨htraffic, hlast⟩ := ih (h.turn t) hstate hnone.2
    refine ⟨?_, hlast⟩
    rw [trafficIn, (h.passes t).eq_empty h hclosed, htraffic]
    rfl

/-- **The account of a run without an opening.** -/
theorem account (h : Synced c) {ts : List Turn} (hnone : .stateChanged .open ∉ c.events ts) :
    (c.trafficIn ts).written <+: c.outbound ++ (c.trafficIn ts).accepted ∧
    ((c.after ts).state = .open →
      c.outbound ++ (c.trafficIn ts).accepted = (c.trafficIn ts).written ++ (c.after ts).outbound) := by
  induction ts generalizing c with
  | nil => exact ⟨List.nil_prefix, fun _ => List.append_nil _⟩
  | cons t rest ih =>
    rw [events, List.mem_append, not_or] at hnone
    obtain ⟨dropped, hbalance, hdropped⟩ := (h.passes t).conserves
    have hafter : c.after (t :: rest) = (c.turn t).1.after rest := rfl
    rw [hafter, trafficIn, Traffic.written_append, Traffic.accepted_append, ← List.append_assoc,
      hbalance, List.append_assoc, List.append_assoc]
    by_cases hopen : (c.turn t).1.state = .open
    · -- The session goes on, so the balance of the turn and that of the rest add up.
      obtain ⟨hwritten, hrest⟩ := ih (h.turn t) hnone.2
      rw [hdropped hopen, List.nil_append]
      refine ⟨(List.prefix_append_right_inj _).mpr hwritten, ?_⟩
      intro hlast
      rw [hrest hlast, List.append_assoc]
    · obtain ⟨hsilent, hlast⟩ := (h.turn t).silent hopen hnone.2
      rw [hsilent]
      refine ⟨⟨(c.turn t).1.outbound ++ dropped, by simp⟩, ?_⟩
      intro hagain
      exact absurd hagain hlast

theorem heard_eq (h : Synced c) (ts : List Turn) :
    (c.trafficIn ts).heard = (c.trafficIn ts).taken.filterMap Message.frame? := by
  induction ts generalizing c with
  | nil => rfl
  | cons t rest ih =>
    rw [trafficIn, Traffic.heard_append, Traffic.taken_append, List.filterMap_append, ih (h.turn t),
      (h.passes t).heard_eq]

end Synced

end Connection

/-! ## 2. Runs that differ in what is sent -/

/-- A turn without the words of what is sent. -/
def Turn.mask : Turn → Turn
  | .send _ => .send ""
  | t => t

/-- An effect without the words of what is written. -/
def Effect.mask : Effect → Effect
  | .write _ => .write ""
  | e => e

namespace Connection

/-- A connection without the words of what is queued. -/
def mask (c : Connection) : Connection := { c with outbound := c.outbound.map fun _ => "" }

theorem events_map_mask (effects : List Effect) :
    Effect.events (effects.map Effect.mask) = Effect.events effects := by
  rw [Effect.events, Effect.events, List.filterMap_map]
  congr 1
  funext e
  cases e <;> rfl

theorem fall_mask (c : Connection) (state : ConnectionState) :
    c.mask.fall state = ((c.fall state).1.mask, (c.fall state).2.map Effect.mask) := by
  have hbackoff : c.mask.backoff = c.backoff := rfl
  cases hnext : c.backoff.next with
  | none =>
    rw [fall_of_none state hnext, fall_of_none state (hbackoff ▸ hnext)]
    rfl
  | some next =>
    rw [fall_of_some state hnext, fall_of_some state (hbackoff ▸ hnext)]
    rfl

theorem receive_mask (c : Connection) (m : Message) :
    c.mask.receive m = ((c.receive m).1.mask, (c.receive m).2.map Effect.mask) := by
  cases m with
  | close => exact fall_mask c .closed
  | text s => rfl
  | control => rfl
  | binary bytes =>
    have hreceive (d : Connection) : d.receive (.binary bytes)
        = (d, ((Message.frame? (.binary bytes)).map fun s => Effect.publish (.frame s)).toList) := rfl
    rw [hreceive, hreceive]
    cases Message.frame? (.binary bytes) <;> rfl

theorem step_mask (c : Connection) (o : Occurrence) :
    c.mask.step o = (c.step o).map fun r => (r.1.mask, r.2.map Effect.mask) := by
  have hphase : c.mask.phase = c.phase := rfl
  have hclosed : c.mask.closed = c.closed := rfl
  unfold step
  rw [hphase, hclosed]
  split
  case h_3 => exact congrArg some (fall_mask c .errored)
  case h_5 m _ => exact congrArg some (receive_mask c m)
  case h_6 => exact congrArg some (fall_mask c .closed)
  case h_7 => exact congrArg some (fall_mask c .errored)
  case h_8 ok _ =>
    -- Which text is taken is masked on both sides, and whether there is one does not change.
    have hmask : c.mask.outbound = c.outbound.map fun _ => "" := rfl
    rw [hmask]
    cases houtbound : c.outbound with
    | nil => rfl
    | cons text rest =>
      cases ok with
      | true => rfl
      | false => exact congrArg some (fall_mask c .errored)
  case h_10 =>
    have hempty : c.mask.outbound.isEmpty = c.outbound.isEmpty := List.isEmpty_map
    have hheld : c.mask.held = c.held := rfl
    rw [hempty, hheld]
    split <;> rfl
  case h_4 | h_9 | h_12 => split <;> rfl
  all_goals rfl

/-- **Masking and then taking a turn is taking a turn and then masking.** -/
theorem turn_mask (c : Connection) (t : Turn) :
    c.mask.turn t.mask = ((c.turn t).1.mask, (c.turn t).2.map Effect.mask) := by
  cases t with
  | close => rfl
  | release => rfl
  | send text =>
    have hsend : c.mask.turn (Turn.mask (.send text)) = ((c.mask.send "").2, []) := rfl
    rw [hsend, turn, send, send]
    have hstate : c.mask.state = c.state := rfl
    have hphase : c.mask.phase = c.phase := rfl
    rw [hstate, hphase]
    split
    · simp [mask]
    · rfl
  | task o =>
    have htask : c.mask.turn (Turn.mask (.task o)) = (c.mask.step o).getD (c.mask, []) := rfl
    rw [htask, step_mask, turn]
    cases c.step o <;> rfl

theorem after_mask (c : Connection) (ts : List Turn) :
    (c.after ts).mask = c.mask.after (ts.map Turn.mask) ∧
    c.events ts = c.mask.events (ts.map Turn.mask) := by
  induction ts generalizing c with
  | nil => exact ⟨rfl, rfl⟩
  | cons t rest ih =>
    obtain ⟨hafter, hevents⟩ := ih (c.turn t).1
    have hturn := c.turn_mask t
    have hfst : (c.mask.turn t.mask).1 = (c.turn t).1.mask := congrArg Prod.fst hturn
    have hnews : c.mask.news t.mask = c.news t := by
      rw [news, hturn, events_map_mask]
      rfl
    refine ⟨?_, ?_⟩
    · rw [← hfst] at hafter
      exact hafter
    · rw [List.map_cons, events, events, hnews, hfst, hevents]

/-- **What was sent leaves no trace once the session is over.** -/
theorem after_eq_of_mask {c : Connection} (h : Synced c) {ts us : List Turn}
    (hmask : us.map Turn.mask = ts.map Turn.mask) (hclosed : (c.after ts).state ≠ .open) :
    c.after us = c.after ts := by
  have hsame : (c.after us).mask = (c.after ts).mask := by
    rw [(c.after_mask us).1, (c.after_mask ts).1, hmask]
  have hstate : (c.after us).state = (c.after ts).state := congrArg (·.state) hsame
  have hunmasked (d : Connection) (hd : Synced d) (hshut : d.state ≠ .open) : d.mask = d := by
    have houtbound := hd.outbound hshut
    rw [mask, houtbound]
    cases d
    cases houtbound
    rfl
  rw [← hunmasked _ (h.after us) (hstate ▸ hclosed), ← hunmasked _ (h.after ts) hclosed]
  exact hsame

/-! ## 3. Sessions are kept apart -/

theorem opens_eq {c : Connection} {t : Turn} (h : .stateChanged .open ∈ c.news t) :
    c.phase = .handshaking ∧ (c.turn t).1.outbound = c.outbound := by
  have hmove := c.move_turn t
  revert h
  generalize c.news t = news at hmove
  generalize (c.turn t).1 = c' at hmove
  intro h
  cases hmove with
  | opens hphase hturn => exact ⟨hphase, rfl⟩
  | retries state hlost | givesUp state hlost => rcases hlost.eq_or_eq with rfl | rfl <;> simp at h
  | stays | closes | hears | connects | ends => simp at h

/-- **Sessions are kept apart**, at every point of every run.

    A text is accepted exactly while the connection is open. While it is not, nothing is queued, nothing
    passes over the stream, and the words of whatever was sent until then are forgotten. From an opening
    up to the next one, what goes out is what was accepted since, in order and up to the point where the
    queue stands or was dropped, and what is heard are the messages taken that hold a frame. -/
theorem sessions_isolated (config : BackoffConfig) (ts : List Turn) :
    let c := (new config).after ts
    (∀ text, c.send text = if c.state = .open then (.ok (), { c with outbound := c.outbound ++ [text] })
      else (.error .notConnected, c)) ∧
    (c.state ≠ .open → c.outbound = [] ∧ (∀ t, c.traffic t = {}) ∧
      ∀ us, us.map Turn.mask = ts.map Turn.mask → (new config).after us = c) ∧
    ∀ t session, .stateChanged .open ∈ c.news t →
      let d := (c.turn t).1
      .stateChanged .open ∉ d.events session →
      let p := d.trafficIn session
      p.written <+: p.accepted ∧
      ((d.after session).state = .open → p.accepted = p.written ++ (d.after session).outbound) ∧
      (d.events session).filterMap TransportEvent.text? = p.taken.filterMap Message.frame? := by
  intro c
  have hsynced : Synced c := (Synced.new config).after ts
  refine ⟨?_, ?_, ?_⟩
  · intro text
    apply send_eq
    intro hdone
    exact hsynced.not_open hdone (by decide)
  · intro hclosed
    refine ⟨hsynced.outbound hclosed, ?_, ?_⟩
    · intro t
      exact (hsynced.passes t).eq_empty hsynced hclosed
    · intro us hmask
      exact after_eq_of_mask (Synced.new config) hmask hclosed
  · intro t session hopens d hnone p
    obtain ⟨hphase, houtbound⟩ := opens_eq hopens
    -- Nothing is queued at an opening, since the connection was not open before.
    have hclosed : c.state ≠ .open := hsynced.not_open hphase (by decide)
    have hempty : d.outbound = [] := houtbound.trans (hsynced.outbound hclosed)
    have hd : Synced d := hsynced.turn t
    obtain ⟨hwritten, hrest⟩ := hd.account hnone
    rw [hempty, List.nil_append] at hwritten hrest
    refine ⟨hwritten, hrest, ?_⟩
    rw [← heard_trafficIn]
    exact hd.heard_eq session

/-- Two texts are accepted in a first session, which is lost with one of them in the queue. The second
    session begins with what is sent in it, and would do so had the two been any others. -/
theorem second_session_starts_clean :
    let first (a b : String) : List Turn := [.task .start, .task .handshakeSucceeded, .send a, .send b,
      .task (.takeOutbound true), .task (.received .close), .task .delayElapsed]
    let second : List Turn := [.send "c", .task (.received (.text "x")), .send "d",
      .task (.received (.binary [0xff])), .task (.takeOutbound true)]
    let c := (new { maxAttempts := 1 }).after (first "a" "b")
    let d := (c.turn (.task .handshakeSucceeded)).1
    let p := d.trafficIn second
    c.state = .connecting ∧ c.outbound = [] ∧ (new { maxAttempts := 1 }).after (first "e" "f") = c ∧
    (d.after second).state = .open ∧ p.accepted = ["c", "d"] ∧ p.written = ["c"] ∧
    p.accepted = p.written ++ (d.after second).outbound ∧
    (d.events second).filterMap TransportEvent.text? = p.taken.filterMap Message.frame? := by
  intro first second c d p
  obtain ⟨_, hforgets, hsession⟩ := sessions_isolated { maxAttempts := 1 } (first "a" "b")
  obtain ⟨hempty, _, hsame⟩ := hforgets (by decide)
  obtain ⟨_, hrest, hheard⟩ := hsession (.task .handshakeSucceeded) second (by decide) (by decide)
  have hopen : (d.after second).state = .open := by decide
  exact ⟨by decide, hempty, hsame (first "e" "f") rfl, hopen, by decide, by decide, hrest hopen, hheard⟩

end Connection
end LiveLog
