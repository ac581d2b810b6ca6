import LiveLog.Net.Correlator

/-!
# The table of requests, read by number

Every operation on the table is given here by what it does to the three things that can be asked about
a number: whether an entry is pending (`isPending`), which outcome is laid down (`outcome?`), and
whether the number has been given out (`nextId`). A removal is the same removal whoever asks for it, so
a response, a timer and a caller who goes away differ only in what they lay down.
-/

namespace LiveLog
namespace Correlator

/-! ## 1. Removal -/

theorem isPending_forget (c : Correlator) (m n : Nat) :
    (c.forget m).isPending n = if n = m then false else c.isPending n := by
  have hforget : (c.forget m).isPending n = (c.pending.filter (·.1 != m)).any (·.1 == n) := rfl
  rw [hforget, List.any_filter]
  by_cases hn : n = m
  · subst hn
    rw [if_pos rfl, List.any_eq_false]
    intro p _
    cases hp : p.1 == n <;> simp [bne, hp]
  · rw [if_neg hn, isPending]
    congr 1
    funext p
    by_cases hp : p.1 = n
    · rw [hp, bne_iff_ne.mpr hn, Bool.true_and]
    · rw [beq_false_of_ne hp, Bool.and_false]

theorem isPending_abandon (c : Correlator) (m n : Nat) :
    (c.abandon m).isPending n = if n = m then false else c.isPending n := isPending_forget c m n

theorem outcome?_abandon (c : Correlator) (m n : Nat) :
    (c.abandon m).outcome? n = if n = m then none else c.outcome? n := by
  have habandon : (c.abandon m).outcome? n = (c.delivered.filter (·.1 != m)).lookup n := rfl
  rw [habandon, outcome?]
  induction c.delivered with
  | nil => simp
  | cons p rest ih =>
    obtain ⟨k, o⟩ := p
    by_cases hk : k = m
    · subst hk
      rw [List.filter_cons_of_neg (by simp), ih, List.lookup_cons]
      by_cases hn : n = k
      · rw [if_pos hn, if_pos hn]
      · rw [if_neg hn, if_neg hn, beq_false_of_ne hn]
    · rw [List.filter_cons_of_pos (by simpa using hk), List.lookup_cons, List.lookup_cons, ih]
      by_cases hn : n = k
      · subst hn
        simp [hk]
      · rw [beq_false_of_ne hn]

/-! ## 2. Entry -/

/-- The table with an entry for the next number. -/
def enter (c : Correlator) (kind : RequestKind) : Correlator :=
  { c with nextId := c.nextId + 1, pending := c.pending ++ [(c.nextId, { id := c.nextId, kind })] }

/-- The frame of the next request. -/
def nextFrame (c : Correlator) (kind : RequestKind) (data : Json) (timestamp : String) : RequestFrame :=
  { kind, id := c.nextId, data, timestamp }

theorem isPending_enter (c : Correlator) (kind : RequestKind) (n : Nat) :
    (c.enter kind).isPending n = if n = c.nextId then true else c.isPending n := by
  have henter : (c.enter kind).isPending n
      = (c.pending ++ [(c.nextId, ({ id := c.nextId, kind } : Ticket))]).any (·.1 == n) := rfl
  rw [henter, List.any_append, isPending]
  by_cases hn : n = c.nextId
  · simp [hn]
  · have hn' : c.nextId ≠ n := fun h => hn h.symm
    simp [hn, hn']

/-- **A request enters or it does not.** Without an open connection nothing happens; with one the number is
    spent, and the entry stays if the frame is taken. -/
theorem issue_eq (c : Correlator) (state : ConnectionState) (takes : Bool) (kind : RequestKind)
    (data : Json) (timestamp : String) :
    c.issue state takes kind data timestamp =
      if state.isOpen then
        if takes then
          (.ok ({ id := c.nextId, kind }, c.nextFrame kind data timestamp), c.enter kind)
        else (.error .notConnected, (c.enter kind).forget c.nextId)
      else (.error .notConnected, c) := by
  rw [issue]
  cases state.isOpen <;> rfl

/-! ## 3. Settlement -/

theorem resolve_taken (c : Correlator) (r : Response) : (c.resolve r).1 = c.isPending r.id := by
  rw [resolve]
  cases c.isPending r.id <;> rfl

theorem nextId_resolve (c : Correlator) (r : Response) : (c.resolve r).2.nextId = c.nextId := by
  rw [resolve]
  split <;> rfl

theorem isPending_resolve (c : Correlator) (r : Response) (n : Nat) :
    (c.resolve r).2.isPending n = if n = r.id then false else c.isPending n := by
  rw [resolve]
  cases hpending : c.isPending r.id with
  | true => exact isPending_forget c r.id n
  | false =>
    by_cases hn : n = r.id
    · subst hn
      rw [if_pos rfl]
      exact hpending
    · rw [if_neg hn]
      rfl

theorem outcome?_resolve (c : Correlator) (r : Response) (n : Nat) :
    (c.resolve r).2.outcome? n =
      if c.isPending r.id ∧ n = r.id then some r.outcome else c.outcome? n := by
  rw [resolve]
  cases hpending : c.isPending r.id with
  | false => simp
  | true =>
    have hlookup : ({ c.forget r.id with delivered := (r.id, r.outcome) :: c.delivered } : Correlator).outcome? n
        = ((r.id, r.outcome) :: c.delivered).lookup n := rfl
    rw [if_pos rfl, hlookup, List.lookup_cons]
    by_cases hn : n = r.id
    · subst hn
      simp
    · rw [beq_false_of_ne hn, if_neg (by simp [hn])]
      rfl

/-- **A timer that fires** hands over the outcome that is there, and declares the time to be up only if
    there is none. -/
theorem expire_eq (c : Correlator) (t : Ticket) (ms : Nat) :
    c.expire t ms = ((c.outcome? t.id).getD (.error (t.timedOut ms)), c.abandon t.id) := by
  rw [expire]
  cases c.outcome? t.id <;> rfl

end Correlator
end LiveLog
