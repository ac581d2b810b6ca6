import LiveLog.Proofs.Connection.Run
import LiveLog.Proofs.Connection.Schedule
import Mathlib.Data.List.Induction

/-!
# The story that a connection tells

What a connection publishes can be told without the connection. A listener needs to remember two things:
the stage that the story is in, and how many retries were announced since the last open. `Tells` says
which event can come then and what is remembered after it. A **story** is a list of such events.

`story_after` is the one theorem about connections here: whatever a run is, its events are a story, which
ends where the connection is. The laws about events are laws about stories. Stories are cut and joined
freely, so each law is read off the point before an event.

One event of a turn may be published while another is still to come: between a loss and what follows it
the task meets nothing, but the story has a stage there, `lost`.
-/

namespace LiveLog

/-! ## 1. Points of a story -/

/-- The stages of a story. -/
inductive Stage where
  | fresh
  | handshaking
  | session
  /-- An attempt or a session was lost, and nothing was said about what follows. -/
  | lost
  | waiting
  | done
deriving DecidableEq, Repr

/-- **A point of a story**: its stage, and how many retries were announced since the last open. -/
structure Point where
  stage : Stage
  retries : Nat

/-- Before anything was published. -/
def Point.start : Point := ⟨.fresh, 0⟩

/-- The stage of a task that waits. -/
def Phase.stage : Phase → Stage
  | .fresh => .fresh
  | .handshaking => .handshaking
  | .session => .session
  | .waiting => .waiting
  | .done => .done

/-- Where the story of a connection is. -/
def Connection.point (c : Connection) : Point := ⟨c.phase.stage, c.backoff.attempts⟩

/-! ## 2. Stories -/

section Story

variable (config : BackoffConfig) (closing : Prop)

/-- **Which event can come at a point**, and the point after it. Whether somebody may have closed the
    connection is `closing`. -/
inductive Tells : Point → TransportEvent → Point → Prop
  | connects (stage : Stage) (k : Nat) (hstage : stage = .fresh ∨ stage = .waiting) :
      Tells ⟨stage, k⟩ (.stateChanged .connecting) ⟨.handshaking, k⟩
  | opens (k : Nat) : Tells ⟨.handshaking, k⟩ (.stateChanged .open) ⟨.session, 0⟩
  | hears (k : Nat) (text : String) : Tells ⟨.session, k⟩ (.frame text) ⟨.session, k⟩
  | fails (k : Nat) : Tells ⟨.handshaking, k⟩ (.stateChanged .errored) ⟨.lost, k⟩
  | breaks (k : Nat) (state : ConnectionState) (hstate : state = .closed ∨ state = .errored) :
      Tells ⟨.session, k⟩ (.stateChanged state) ⟨.lost, k⟩
  | schedules (k : Nat) (hleft : k < config.maxAttempts) :
      Tells ⟨.lost, k⟩ (config.retry k) ⟨.waiting, k + 1⟩
  | givesUp : Tells ⟨.lost, config.maxAttempts⟩ (.stateChanged .failed) ⟨.done, config.maxAttempts⟩
  /-- A session is ended from this side. -/
  | ends (k : Nat) : Tells ⟨.session, k⟩ (.stateChanged .closed) ⟨.done, k⟩
  /-- Outside a session only a close ends anything. -/
  | stops (stage : Stage) (k : Nat) (hstage : stage = .handshaking ∨ stage = .waiting) (hclosing : closing) :
      Tells ⟨stage, k⟩ (.stateChanged .closed) ⟨.done, k⟩

/-- **A list of events that leads from a point to a point.** -/
def Story : Point → List TransportEvent → Point → Prop
  | p, [], q => p = q
  | p, e :: es, q => ∃ m, Tells config closing p e m ∧ Story m es q

end Story

namespace Story

variable {config : BackoffConfig} {closing : Prop}

theorem append_iff {p q : Point} {es fs : List TransportEvent} :
    Story config closing p (es ++ fs) q
      ↔ ∃ m, Story config closing p es m ∧ Story config closing m fs q := by
  induction es generalizing p with
  | nil => simp [Story]
  | cons e es ih =>
    simp only [List.cons_append, Story, ih]
    constructor
    · rintro ⟨m, he, n, hes, hfs⟩
      exact ⟨n, ⟨m, he, hes⟩, hfs⟩
    · rintro ⟨n, ⟨m, he, hes⟩, hfs⟩
      exact ⟨m, he, n, hes, hfs⟩

theorem one {p q : Point} {e : TransportEvent} (h : Tells config closing p e q) :
    Story config closing p [e] q := ⟨q, h, rfl⟩

theorem two {p m q : Point} {e f : TransportEvent} (he : Tells config closing p e m)
    (hf : Tells config closing m f q) : Story config closing p [e, f] q := ⟨m, he, q, hf, rfl⟩

theorem concat_iff {p q : Point} {es : List TransportEvent} {e : TransportEvent} :
    Story config closing p (es ++ [e]) q
      ↔ ∃ m, Story config closing p es m ∧ Tells config closing m e q := by
  rw [append_iff]
  constructor
  · rintro ⟨m, hes, n, he, rfl⟩
    exact ⟨m, hes, he⟩
  · rintro ⟨m, hes, he⟩
    exact ⟨m, hes, one he⟩

/-- **A law of stories**: it holds of no events, and one more event keeps it. -/
theorem law {start : Point} (P : List TransportEvent → Point → Prop) (hnil : P [] start)
    (hconcat : ∀ es m e q, P es m → Tells config closing m e q → P (es ++ [e]) q)
    {es : List TransportEvent} {q : Point} (h : Story config closing start es q) : P es q := by
  -- A law looks at the last event, so the induction is on the end of the list.
  induction es using List.reverseRecOn generalizing q with
  | nil =>
    have hq : start = q := h
    exact hq ▸ hnil
  | append_singleton es e ih =>
    obtain ⟨m, hes, he⟩ := concat_iff.mp h
    exact hconcat es m e q (ih hes) he

theorem split {p q : Point} {before after : List TransportEvent} {e : TransportEvent}
    (h : Story config closing p (before ++ e :: after) q) :
    ∃ m n, Story config closing p before m ∧ Tells config closing m e n ∧
      Story config closing n after q := by
  obtain ⟨m, hbefore, n, he, hafter⟩ := append_iff.mp h
  exact ⟨m, n, hbefore, he, hafter⟩

theorem eq_nil_of_done {k : Nat} {es : List TransportEvent} {q : Point}
    (h : Story config closing ⟨.done, k⟩ es q) : es = [] := by
  cases es with
  | nil => rfl
  | cons e es =>
    obtain ⟨m, he, _⟩ := h
    cases he with
    | connects _ _ hstage => exact absurd hstage (by simp)
    | stops _ _ hstage => exact absurd hstage (by simp)

theorem mono {closing' : Prop} (himp : closing → closing') {p q : Point} {es : List TransportEvent}
    (h : Story config closing p es q) : Story config closing' p es q := by
  induction es generalizing p with
  | nil => exact h
  | cons e es ih =>
    obtain ⟨m, he, hes⟩ := h
    refine ⟨m, ?_, ih hes⟩
    cases he with
    | connects stage k hstage => exact .connects stage k hstage
    | opens k => exact .opens k
    | hears k text => exact .hears k text
    | fails k => exact .fails k
    | breaks k state hstate => exact .breaks k state hstate
    | schedules k hleft => exact .schedules k hleft
    | givesUp => exact .givesUp
    | ends k => exact .ends k
    | stops stage k hstage hclosing => exact .stops stage k hstage (himp hclosing)

theorem retries_le {es : List TransportEvent} {q : Point} (h : Story config closing .start es q) :
    q.retries ≤ config.maxAttempts := by
  refine law (fun _ q => q.retries ≤ config.maxAttempts) (Nat.zero_le _) ?_ h
  intro es m e q hm he
  cases he with
  | opens => exact Nat.zero_le _
  | schedules k hleft => exact hleft
  | givesUp => exact Nat.le_refl _
  | connects => exact hm
  | hears => exact hm
  | fails => exact hm
  | breaks => exact hm
  | ends => exact hm
  | stops => exact hm

end Story

/-! ## 3. The story of a run -/

namespace Connection

/-- **What holds of a connection at any time**: its backoff is the one after some retries, not more than
    there are, and it is closed only if somebody closed it. -/
structure Sound (config : BackoffConfig) (closing : Prop) (c : Connection) : Prop where
  backoff : c.backoff = config.backoff c.backoff.attempts
  attempts_le : c.backoff.attempts ≤ config.maxAttempts
  closing : c.closed = true → closing

variable {config : BackoffConfig} {closing : Prop} {c c' : Connection} {t : Turn}
  {news : List TransportEvent}

theorem sound_new : Sound config closing (new config) where
  backoff := rfl
  attempts_le := Nat.zero_le _
  closing := fun hclosed => absurd hclosed (by simp [new])

/-- How a loss is told: a fault of an attempt, or any end of a session. -/
theorem LosesTo.tells {state : ConnectionState} (hlost : c.LosesTo state) :
    Tells config closing c.point (.stateChanged state) ⟨.lost, c.backoff.attempts⟩ := by
  rcases hlost with ⟨hphase, rfl⟩ | ⟨hphase, hstate⟩
  · rw [point, hphase]
    exact .fails _
  · rw [point, hphase]
    exact .breaks _ _ hstate

/-- **A move tells its news and stays sound.** -/
theorem Sound.move (h : Sound config closing c) (hturn : t = .close → closing) (hmove : Move c t c' news) :
    Story config closing c.point news c'.point ∧ Sound config closing c' := by
  cases hmove with
  | stays => exact ⟨rfl, h.backoff, h.attempts_le, h.closing⟩
  | closes hclose => exact ⟨rfl, h.backoff, h.attempts_le, fun _ => hturn hclose⟩
  | hears text hphase =>
    refine ⟨.one ?_, h⟩
    rw [point, hphase]
    exact .hears _ text
  | connects hphase =>
    refine ⟨.one ?_, h.backoff, h.attempts_le, h.closing⟩
    rcases hphase with hphase | hphase
    · rw [point, hphase]
      exact .connects _ _ (.inl rfl)
    · rw [point, hphase]
      exact .connects _ _ (.inr rfl)
  | opens hphase =>
    have hreset : c.backoff.reset = config.backoff 0 := by rw [h.backoff, config.reset_backoff]
    refine ⟨.one ?_, ?_, ?_, h.closing⟩
    · rw [point, point, hphase]
      exact .opens _
    · exact hreset
    · exact Nat.zero_le _
  | retries state hlost delay backoff hnext =>
    -- The backoff is the one after some retries, so the next is the next of the schedule.
    rw [h.backoff] at hnext
    obtain ⟨hleft, rfl, rfl⟩ := config.next_backoff_eq_some hnext
    exact ⟨.two hlost.tells (.schedules _ hleft), rfl, hleft, h.closing⟩
  | givesUp state hlost hnext =>
    rw [h.backoff] at hnext
    have hspent : c.backoff.attempts = config.maxAttempts :=
      Nat.le_antisymm h.attempts_le (config.next_backoff_eq_none hnext)
    refine ⟨.two hlost.tells ?_, h.backoff, h.attempts_le, h.closing⟩
    rw [point, hspent]
    exact .givesUp
  | ends hphase =>
    refine ⟨.one ?_, h.backoff, h.attempts_le, h.closing⟩
    rcases hphase with hphase | ⟨hphase | hphase, hclosed⟩
    · rw [point, hphase]
      exact .ends _
    · rw [point, hphase]
      exact .stops _ _ (.inl rfl) (h.closing hclosed)
    · rw [point, hphase]
      exact .stops _ _ (.inr rfl) (h.closing hclosed)

/-- **A run goes on telling its story.** -/
theorem Sound.run (h : Sound config closing c) {ts : List Turn} (hclosing : Turn.close ∈ ts → closing) :
    Story config closing c.point (c.events ts) (c.after ts).point ∧ Sound config closing (c.after ts) := by
  induction ts generalizing c with
  | nil => exact ⟨rfl, h⟩
  | cons t rest ih =>
    obtain ⟨hnews, hturn⟩ := h.move (fun ht => hclosing (ht ▸ List.mem_cons_self)) (move_turn c t)
    obtain ⟨hrest, hafter⟩ := ih hturn fun hmem => hclosing (List.mem_cons_of_mem _ hmem)
    exact ⟨Story.append_iff.mpr ⟨_, hnews, hrest⟩, hafter⟩

theorem sound_after (config : BackoffConfig) (ts : List Turn) :
    Sound config (Turn.close ∈ ts) ((new config).after ts) :=
  (sound_new.run id).2

/-- **The events of a run are a story**, and it ends where the connection is. -/
theorem story_after (config : BackoffConfig) (ts : List Turn) :
    Story config (Turn.close ∈ ts) .start ((new config).events ts) ((new config).after ts).point :=
  (sound_new.run id).1

end Connection
end LiveLog
