import LiveLog.Proofs.Correlator.Settlement

/-!
# The register of requests

Which numbers are given out in a run, and which of them the table holds. Both answers are independent of
the table: a number is how many requests have found the connection open (`Event.openRequests`), and a
request is in the table from the moment its frame went out until it is answered, runs out of time or
loses its caller, all of which is read off the marks of the run.

The table changes at three places in the code, and one of them runs on every way out of a request. So what
one event does is said once, guards and all (`Exchange.StepTo`), and every law below is a short case
analysis of it. What keeps removals from hitting somebody else's entry is that numbers are fresh, and
that is the invariant `Correlator.InOrder`.
-/

namespace LiveLog

/-! ## 1. A table in order -/

namespace Correlator

/-- **A table in order.** Its numbers grow from the oldest request to the newest, each was given out, and
    each stands over the ticket that bears it. -/
structure InOrder (c : Correlator) : Prop where
  sorted : (c.pending.map (·.1)).Pairwise (· < ·)
  lt : ∀ entry ∈ c.pending, entry.1 < c.nextId
  ticket : ∀ entry ∈ c.pending, entry.2.id = entry.1

namespace InOrder

variable {c : Correlator}

/-- A number that was not given out has no entry, so that its removal removes nothing. -/
theorem filter_fresh (h : InOrder c) : c.pending.filter (·.1 != c.nextId) = c.pending := by
  rw [List.filter_eq_self]
  intro entry hentry
  have hlt := h.lt entry hentry
  exact bne_iff_ne.mpr (by omega)

theorem enter (h : InOrder c) (kind : RequestKind) : InOrder (c.enter kind) where
  sorted := by
    have henter : (c.enter kind).pending.map (·.1) = c.pending.map (·.1) ++ [c.nextId] := by
      simp [Correlator.enter]
    rw [henter, List.pairwise_append]
    refine ⟨h.sorted, List.pairwise_singleton _ _, ?_⟩
    intro n hn m hm
    obtain ⟨entry, hentry, rfl⟩ := List.mem_map.mp hn
    rw [List.mem_singleton.mp hm]
    exact h.lt entry hentry
  lt := by
    intro entry hentry
    rcases List.mem_append.mp hentry with hold | hnew
    · exact Nat.lt_succ_of_lt (h.lt entry hold)
    · rw [List.mem_singleton.mp hnew]
      exact Nat.lt_succ_self _
  ticket := by
    intro entry hentry
    rcases List.mem_append.mp hentry with hold | hnew
    · exact h.ticket entry hold
    · rw [List.mem_singleton.mp hnew]

/-- Whoever removes an entry leaves the others in order. -/
theorem forget (h : InOrder c) (n : Nat) : InOrder (c.forget n) where
  sorted := List.Pairwise.sublist (List.filter_sublist.map _) h.sorted
  lt := fun entry hentry => h.lt entry (List.mem_filter.mp hentry).1
  ticket := fun entry hentry => h.ticket entry (List.mem_filter.mp hentry).1

end InOrder
end Correlator

/-! ## 2. Numbers of a run -/

namespace Event

/-- The connection after an event. -/
def connectionAfter (state : ConnectionState) : Event → ConnectionState
  | .connection state' => state'
  | _ => state

/-- Whether an event is a request that finds the connection open. -/
def asksOpen (state : ConnectionState) : Event → Bool
  | .request .. => state.isOpen
  | _ => false

end Event

namespace Mark

/-- The frame that went out. -/
def frame? : Mark → Option RequestFrame
  | .sent _ frame => some frame
  | _ => none

/-- What a mark does to the entries of the table. -/
def onEntries (entries : List (Nat × Ticket)) : Mark → List (Nat × Ticket)
  | .sent caller _ => entries ++ [(caller.ticket.id, caller.ticket)]
  | .refused _ => entries
  | .answered r taken => if taken then entries.filter (·.1 != r.id) else entries
  | .returned id _ => entries.filter (·.1 != id)
  | .dropped id => entries.filter (·.1 != id)

end Mark

namespace Exchange

/-! ## 3. What one event can do -/

/-- The caller of the next request. -/
def nextCaller (x : Exchange) (kind : RequestKind) (limit : Nat) : Caller :=
  { ticket := { id := x.correlator.nextId, kind }, limit }

/-- **What an event can do**: where it leads, and the mark it leaves. -/
inductive StepTo (x : Exchange) : Event → Exchange → Option Mark → Prop
  | connects (state : ConnectionState) :
      StepTo x (.connection state) { x with connection := state } none
  /-- Nobody is there who could run, or nothing is there for it. -/
  | idles {e : Event} (hasks : e.asksOpen x.connection = false)
      (hconnection : e.connectionAfter x.connection = x.connection) : StepTo x e x none
  | refuses (kind : RequestKind) (data : Json) (timestamp : String) (takes : Bool) (limit : Nat)
      (hopen : x.connection.isOpen = false) :
      StepTo x (.request kind data timestamp takes limit) x (some (.refused .notConnected))
  /-- The number is given out, and the frame is not taken. -/
  | spends (kind : RequestKind) (data : Json) (timestamp : String) (limit : Nat)
      (hopen : x.connection.isOpen = true) :
      StepTo x (.request kind data timestamp false limit)
        { x with correlator := (x.correlator.enter kind).forget x.correlator.nextId }
        (some (.refused .notConnected))
  | sends (kind : RequestKind) (data : Json) (timestamp : String) (limit : Nat)
      (hopen : x.connection.isOpen = true) :
      StepTo x (.request kind data timestamp true limit)
        { x with correlator := x.correlator.enter kind, callers := x.callers ++ [x.nextCaller kind limit] }
        (some (.sent (x.nextCaller kind limit) (x.correlator.nextFrame kind data timestamp)))
  | ignores (r : Response) : StepTo x (.response r) x (some (.answered r false))
  | settles (r : Response) :
      StepTo x (.response r)
        { x with correlator := { x.correlator.forget r.id with
            delivered := (r.id, r.outcome) :: x.correlator.delivered } }
        (some (.answered r true))
  /-- A caller is done, one way or another. -/
  | ends {e : Event} (id : Nat) (m : Mark) (hmark : m = .dropped id ∨ ∃ o, m = .returned id o)
      (hasks : e.asksOpen x.connection = false)
      (hconnection : e.connectionAfter x.connection = x.connection) :
      StepTo x e (x.leave id (x.correlator.abandon id)) (some m)

namespace StepTo

variable {x x' : Exchange} {e : Event} {mark : Option Mark}

theorem connection (h : StepTo x e x' mark) : x'.connection = e.connectionAfter x.connection := by
  cases h with
  | idles hasks hconnection => exact hconnection.symm
  | ends id m hmark hasks hconnection => exact hconnection.symm
  | _ => rfl

/-- **A number is given out to each request that finds the connection open**, and to nothing else. -/
theorem nextId (h : StepTo x e x' mark) :
    x'.correlator.nextId = x.correlator.nextId + (e.asksOpen x.connection).toNat := by
  cases h with
  | idles hasks hconnection => rw [hasks, Bool.toNat_false, Nat.add_zero]
  | ends id m hmark hasks hconnection =>
    rw [hasks, Bool.toNat_false, Nat.add_zero]
    rfl
  | refuses kind data timestamp takes limit hopen =>
    rw [Event.asksOpen, hopen, Bool.toNat_false, Nat.add_zero]
  | spends kind data timestamp limit hopen | sends kind data timestamp limit hopen =>
    rw [Event.asksOpen, hopen, Bool.toNat_true]
    rfl
  | _ => rfl

/-- **A frame that goes out bears the next number**, and so does its caller. -/
theorem sent (h : StepTo x e x' mark) {caller : Caller} {frame : RequestFrame}
    (hmark : mark = some (.sent caller frame)) :
    caller.ticket.id = x.correlator.nextId ∧ frame.id = x.correlator.nextId ∧
    x'.correlator.nextId = x.correlator.nextId + 1 := by
  cases h with
  | sends kind data timestamp limit hopen =>
    obtain ⟨rfl, rfl⟩ := Mark.sent.inj (Option.some.inj hmark)
    exact ⟨rfl, rfl, rfl⟩
  | ends id m hends hasks hconnection =>
    rcases hends with rfl | ⟨o, rfl⟩ <;> exact absurd hmark (by simp)
  | _ => exact absurd hmark (by simp)

/-- **The table changes as the mark says**, and without a mark it stays. -/
theorem pending (h : StepTo x e x' mark) (horder : x.correlator.InOrder) :
    x'.correlator.pending =
      (mark.map (·.onEntries x.correlator.pending)).getD x.correlator.pending := by
  cases h with
  | spends kind data timestamp limit hopen =>
    -- The entry was made and removed again; the removal hits no other, since the number is fresh.
    have hspent : ((x.correlator.enter kind).forget x.correlator.nextId).pending
        = x.correlator.pending.filter (·.1 != x.correlator.nextId) := by
      simp [Correlator.enter, Correlator.forget]
    rw [hspent, horder.filter_fresh]
    rfl
  | ends id m hends hasks hconnection => rcases hends with rfl | ⟨o, rfl⟩ <;> rfl
  | _ => rfl

end StepTo

/-! ## 4. What a run keeps -/

end Exchange
end LiveLog
