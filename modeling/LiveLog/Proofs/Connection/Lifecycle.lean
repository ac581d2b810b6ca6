import LiveLog.Proofs.Connection.Story
import Mathlib.Data.List.Chain

/-!
# The lifecycle of a connection

The order in which a connection can say things, over every run of it: `Lifecycle` lists the rules and
`lifecycle_after` says that no run breaks one. Which state may follow which is a table
(`ConnectionState.successors`); the other rules say what may stand around an event.

A rule about an event is read off the point of the story before it. What ties points to states is
`Stage.Shows`: what a listener of the states alone sees at a stage.

That something was published after a close is said with the beginnings of the run: somebody had closed
the connection at a time when nothing was published but what stands before the event (`ClosedBefore`).
-/

namespace LiveLog

/-! ## 1. Published states -/

/-- **The states that can be published next.** -/
def ConnectionState.successors : ConnectionState → List ConnectionState
  | .connecting => [.open, .errored, .closed]
  | .open => [.closed, .errored]
  | .closed => [.connecting, .failed, .closed]
  | .errored => [.connecting, .failed, .closed]
  | .failed => []

namespace TransportEvent

/-- The state that an event publishes. -/
def state? : TransportEvent → Option ConnectionState
  | .stateChanged s => some s
  | _ => none

/-- The published states among events. -/
def states (es : List TransportEvent) : List ConnectionState := es.filterMap state?

theorem states_append (es fs : List TransportEvent) : states (es ++ fs) = states es ++ states fs :=
  List.filterMap_append

theorem states_concat (es : List TransportEvent) (e : TransportEvent) :
    states (es ++ [e]) = states es ++ e.state?.toList := by
  rw [states_append]
  cases e <;> rfl

theorem getLast?_states_concat (es : List TransportEvent) (e : TransportEvent) :
    (states (es ++ [e])).getLast? = e.state?.or (states es).getLast? := by
  rw [states_concat]
  cases e <;> simp [state?]

end TransportEvent

open TransportEvent

/-- **The last published state at a stage.** -/
def Stage.Shows : Stage → Option ConnectionState → Prop
  | .fresh, s => s = none
  | .handshaking, s => s = some .connecting
  | .session, s => s = some .open
  | .lost, s => s = some .closed ∨ s = some .errored
  | .waiting, s => s = some .closed ∨ s = some .errored
  | .done, s => s = some .closed ∨ s = some .failed

/-! ## 2. The rules -/

/-- **The lifecycle.** The rules for a list of events, where `closedBefore` says that somebody closed the
    connection when no more than some first events were published. -/
structure Lifecycle (closedBefore : List TransportEvent → Prop) (es : List TransportEvent) : Prop where
  starts : ∀ e ∈ es.head?, e = .stateChanged .connecting
  states : (states es).IsChain fun s next => next ∈ s.successors
  /-- Unless it ends a session, a closed connection was closed by somebody, and says nothing more. -/
  closed : ∀ before after, es = before ++ .stateChanged .closed :: after →
    (TransportEvent.states before).getLast? ≠ some .open → closedBefore before ∧ after = []
  failed : ∀ before after, es = before ++ .stateChanged .failed :: after → after = []
  /-- A retry is announced right after a loss, and right before the attempt or the end. -/
  scheduled : ∀ before after attempt maxAttempts delay,
    es = before ++ .reconnectScheduled attempt maxAttempts delay :: after →
      (before.getLast? = some (.stateChanged .closed) ∨ before.getLast? = some (.stateChanged .errored)) ∧
      (after = [] ∨ after.head? = some (.stateChanged .connecting) ∨ after = [.stateChanged .closed])
  /-- Frames arrive while the last published state is open. -/
  frames : ∀ before after text, es = before ++ .frame text :: after →
    (TransportEvent.states before).getLast? = some .open

/-! ## 3. The rules hold of stories -/

section Tells

variable {config : BackoffConfig} {closing : Prop} {p q : Point} {e : TransportEvent}
  {s : Option ConnectionState}

theorem Tells.shows (h : Tells config closing p e q) (hs : p.stage.Shows s) :
    q.stage.Shows (e.state?.or s) := by
  cases h with
  | connects => rfl
  | opens => rfl
  | hears => exact hs
  | fails => exact .inr rfl
  | breaks _ _ hstate =>
    rcases hstate with rfl | rfl
    · exact .inl rfl
    · exact .inr rfl
  | schedules => exact hs
  | givesUp => exact .inr rfl
  | ends => exact .inl rfl
  | stops => exact .inl rfl

theorem Tells.mem_successors (h : Tells config closing p e q) (hs : p.stage.Shows s)
    {last next : ConnectionState} (hlast : last ∈ s) (hnext : next ∈ e.state?) :
    next ∈ last.successors := by
  obtain rfl : s = some last := hlast
  cases h with
  | hears => exact absurd hnext (by simp [state?])
  | schedules => exact absurd hnext (by simp [state?, BackoffConfig.retry])
  | connects _ _ hstage =>
    obtain rfl : ConnectionState.connecting = next := Option.some.inj hnext
    rcases hstage with rfl | rfl
    · exact absurd hs (by simp [Stage.Shows])
    · rcases hs with hs | hs <;> (rw [Option.some.inj hs]; decide)
  | opens =>
    obtain rfl : ConnectionState.open = next := Option.some.inj hnext
    rw [Option.some.inj hs]
    decide
  | fails =>
    obtain rfl : ConnectionState.errored = next := Option.some.inj hnext
    rw [Option.some.inj hs]
    decide
  | breaks _ state hstate =>
    obtain rfl : state = next := Option.some.inj hnext
    rw [Option.some.inj hs]
    rcases hstate with rfl | rfl <;> decide
  | givesUp =>
    obtain rfl : ConnectionState.failed = next := Option.some.inj hnext
    rcases hs with hs | hs <;> (rw [Option.some.inj hs]; decide)
  | ends =>
    obtain rfl : ConnectionState.closed = next := Option.some.inj hnext
    rw [Option.some.inj hs]
    decide
  | stops _ _ hstage =>
    obtain rfl : ConnectionState.closed = next := Option.some.inj hnext
    rcases hstage with rfl | rfl
    · rw [Option.some.inj hs]
      decide
    · rcases hs with hs | hs <;> (rw [Option.some.inj hs]; decide)

end Tells

namespace Story

variable {config : BackoffConfig} {closing : Prop} {es : List TransportEvent} {q : Point}

/-- The stage of a story says which state was published last. -/
theorem shows (h : Story config closing .start es q) : q.stage.Shows (states es).getLast? := by
  have hnil : Point.start.stage.Shows (states []).getLast? := rfl
  refine law (fun es q => q.stage.Shows (states es).getLast?) hnil ?_ h
  intro es m e q hm he
  rw [getLast?_states_concat]
  exact he.shows hm

theorem isChain_states (h : Story config closing .start es q) :
    (states es).IsChain fun s next => next ∈ s.successors := by
  have hnil : Point.start.stage.Shows (states []).getLast? := rfl
  -- The chain grows at its end, so what is published last has to be known along with it.
  suffices hboth : (states es).IsChain (fun s next => next ∈ s.successors) ∧
      q.stage.Shows (states es).getLast? from hboth.1
  refine law (fun es q => (states es).IsChain (fun s next => next ∈ s.successors) ∧
    q.stage.Shows (states es).getLast?) ⟨.nil, hnil⟩ ?_ h
  rintro es m e q ⟨hchain, hm⟩ he
  refine ⟨?_, by rw [getLast?_states_concat]; exact he.shows hm⟩
  rw [states_concat, List.isChain_append]
  refine ⟨hchain, ?_, ?_⟩
  · cases e.state? with
    | none => exact .nil
    | some s => exact .singleton s
  · intro last hlast next hnext
    rw [Option.head?_toList] at hnext
    exact he.mem_successors hm hlast hnext

theorem getLast?_of_lost (h : Story config closing .start es q) (hq : q.stage = .lost) :
    es.getLast? = some (.stateChanged .closed) ∨ es.getLast? = some (.stateChanged .errored) := by
  refine law (fun es q => q.stage = .lost → es.getLast? = some (.stateChanged .closed) ∨
    es.getLast? = some (.stateChanged .errored)) (fun hstart => absurd hstart (by simp [Point.start])) ?_ h hq
  intro es m e q _ he hq
  rw [List.getLast?_concat]
  cases he with
  | fails => exact .inr rfl
  | breaks _ _ hstate =>
    rcases hstate with rfl | rfl
    · exact .inl rfl
    · exact .inr rfl
  | connects => exact absurd hq (by simp)
  | opens => exact absurd hq (by simp)
  | hears => exact absurd hq (by simp)
  | schedules => exact absurd hq (by simp)
  | givesUp => exact absurd hq (by simp)
  | ends => exact absurd hq (by simp)
  | stops => exact absurd hq (by simp)

theorem head?_eq (h : Story config closing .start es q) :
    ∀ e ∈ es.head?, e = .stateChanged .connecting := by
  cases es with
  | nil => simp
  | cons e es =>
    obtain ⟨m, he, _⟩ := h
    intro first hfirst
    obtain rfl : e = first := Option.some.inj hfirst
    cases he with
    | connects => rfl
    | stops _ _ hstage => exact absurd hstage (by simp)

/-- After the announcement of a retry there is nothing, the attempt, or the end. -/
theorem of_waiting {k : Nat} (h : Story config closing ⟨.waiting, k⟩ es q) :
    es = [] ∨ es.head? = some (.stateChanged .connecting) ∨ es = [.stateChanged .closed] := by
  cases es with
  | nil => exact .inl rfl
  | cons e es =>
    obtain ⟨m, he, hrest⟩ := h
    cases he with
    | connects => exact .inr (.inl rfl)
    | stops => exact .inr (.inr (by rw [eq_nil_of_done hrest]))

variable {before after : List TransportEvent}

theorem scheduled {attempt maxAttempts : Nat} {delay : Duration}
    (h : Story config closing .start (before ++ .reconnectScheduled attempt maxAttempts delay :: after) q) :
    (before.getLast? = some (.stateChanged .closed) ∨ before.getLast? = some (.stateChanged .errored)) ∧
    (after = [] ∨ after.head? = some (.stateChanged .connecting) ∨ after = [.stateChanged .closed]) := by
  obtain ⟨m, n, hbefore, he, hafter⟩ := h.split
  cases he with
  | schedules => exact ⟨hbefore.getLast?_of_lost rfl, hafter.of_waiting⟩

theorem failed (h : Story config closing .start (before ++ .stateChanged .failed :: after) q) :
    after = [] := by
  obtain ⟨m, n, _, he, hafter⟩ := h.split
  cases he with
  -- A session breaks as closed or errored, so only giving up is told as failed.
  | breaks _ _ hstate => exact absurd hstate (by simp)
  | givesUp => exact hafter.eq_nil_of_done

theorem frames {text : String} (h : Story config closing .start (before ++ .frame text :: after) q) :
    (states before).getLast? = some .open := by
  obtain ⟨m, n, hbefore, he, _⟩ := h.split
  cases he with
  | hears => exact hbefore.shows

/-- Outside a session, closed means closed by somebody, and the end. -/
theorem closed (h : Story config closing .start (before ++ .stateChanged .closed :: after) q)
    (hopen : (states before).getLast? ≠ some .open) : closing ∧ after = [] := by
  obtain ⟨m, n, hbefore, he, hafter⟩ := h.split
  cases he with
  | breaks => exact absurd hbefore.shows hopen
  | ends => exact absurd hbefore.shows hopen
  | stops _ _ _ hclosing => exact ⟨hclosing, hafter.eq_nil_of_done⟩

end Story

/-! ## 4. The rules hold of runs -/

namespace Connection

/-- **Somebody closed the connection** at a time of the run when no more than some events were
    published. -/
def ClosedBefore (config : BackoffConfig) (ts : List Turn) (published : List TransportEvent) : Prop :=
  ∃ us, us <+: ts ∧ Turn.close ∈ us ∧ (new config).events us <+: published

/-- Who ends a connection outside a session closed it before. -/
theorem closedBefore_of_events {config : BackoffConfig} {ts : List Turn} {before after : List TransportEvent}
    (h : (new config).events ts = before ++ .stateChanged .closed :: after)
    (hopen : (states before).getLast? ≠ some .open) : ClosedBefore config ts before := by
  obtain ⟨us, t, hus, hbefore, hnow⟩ := exists_turn_of_events h
  -- The story up to that turn needs a close, and the turn is none, as it has news.
  obtain ⟨later, hlater⟩ := hnow
  have hstory := story_after config (us ++ [t])
  rw [← hlater, List.append_assoc] at hstory
  have hmem := (hstory.closed hopen).1
  refine ⟨us, (List.prefix_append us [t]).trans hus, ?_, hbefore⟩
  rcases List.mem_append.mp hmem with hmem | hmem
  · exact hmem
  · obtain rfl := List.mem_singleton.mp hmem
    have hnone : (new config).events (us ++ [.close]) = (new config).events us := by
      rw [events_append]
      exact List.append_nil _
    have hlength := hbefore.length_le
    rw [← hnone, ← hlater, List.length_append, List.length_append, List.length_singleton] at hlength
    omega

theorem Move.state_eq {c c' : Connection} {t : Turn} {news : List TransportEvent} (h : Move c t c' news) :
    c'.state = ((states news).getLast?).getD c.state := by
  cases h <;> rfl

theorem state_after (c : Connection) (ts : List Turn) :
    (c.after ts).state = ((states (c.events ts)).getLast?).getD c.state := by
  induction ts generalizing c with
  | nil => rfl
  | cons t rest ih =>
    have hafter : c.after (t :: rest) = (c.turn t).1.after rest := rfl
    have hturn := (move_turn c t).state_eq
    rw [hafter, ih, hturn, events, states_append, List.getLast?_append, Option.getD_or]

/-- **The events of every run follow the lifecycle**, and a handle sees the state published last. -/
theorem lifecycle_after (config : BackoffConfig) (ts : List Turn) :
    Lifecycle (ClosedBefore config ts) ((new config).events ts) ∧
      ((new config).after ts).state = ((states ((new config).events ts)).getLast?).getD .connecting := by
  have hstory := story_after config ts
  refine ⟨?_, state_after (new config) ts⟩
  exact {
    starts := hstory.head?_eq
    states := hstory.isChain_states
    closed := by
      intro before after hsplit hopen
      rw [hsplit] at hstory
      exact ⟨closedBefore_of_events hsplit hopen, (hstory.closed hopen).2⟩
    failed := fun before after hsplit => Story.failed (hsplit ▸ hstory)
    scheduled := fun before after attempt maxAttempts delay hsplit => Story.scheduled (hsplit ▸ hstory)
    frames := fun before after text hsplit => Story.frames (hsplit ▸ hstory) }

end Connection
end LiveLog
