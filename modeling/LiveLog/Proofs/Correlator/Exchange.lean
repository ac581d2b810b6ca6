import LiveLog.Proofs.Correlator.Table

/-!
# Runs of requests

Requests, responses, timers, callers who go away and changes of the connection all meet at one table,
and nothing is promised about the order in which they come. So a run is any list of **events**, and each
event is one step that nothing interrupts. What a caller has to know between its steps (its ticket
and its time limit) is kept beside the table, in an **`Exchange`**.

An event leaves at most one **mark**, which says what it came to: a frame that went out, a response that
was or was not taken, a request that returned. Marks are all that the outside ever sees of a run, and
what is proved of requests is said of the marks of a run.

Two events name a request that may run on: `wake` is the caller running again because there is
something for it, and `timeUp` is the caller running again because its timer fired. Either looks for an
outcome first.
-/

namespace LiveLog

/-- A caller whose request is under way: what it holds, and its time limit in milliseconds. -/
structure Caller where
  ticket : Ticket
  limit : Nat
deriving DecidableEq, Repr

/-- What a caller is told when its time is up. -/
def Caller.timedOut (c : Caller) : Outcome Json := .error (c.ticket.timedOut c.limit)

/-- **What happens to an exchange.** -/
inductive Event where
  | connection (state : ConnectionState)
  /-- A request is made; `takes` says whether the connection takes the frame. -/
  | request (kind : RequestKind) (data : Json) (timestamp : String) (takes : Bool) (limit : Nat)
  | response (r : Response)
  /-- A caller runs again. -/
  | wake (id : Nat)
  /-- The timer of a caller fires. -/
  | timeUp (id : Nat)
  /-- A caller goes away. -/
  | drop (id : Nat)

/-- **What an event came to.** -/
inductive Mark where
  | sent (caller : Caller) (frame : RequestFrame)
  /-- A request failed at once. -/
  | refused (error : ClientError)
  | answered (r : Response) (taken : Bool)
  | returned (id : Nat) (outcome : Outcome Json)
  | dropped (id : Nat)

/-- **Where a request stands.** Before it is made and after it has ended it is absent. -/
inductive Standing where
  | absent
  | waiting (caller : Caller)
  /-- Its outcome is there and its caller has not run since. -/
  | settled (caller : Caller) (outcome : Outcome Json)

/-- **The table of requests with everybody who uses it.** -/
structure Exchange where
  correlator : Correlator := {}
  connection : ConnectionState
  callers : List Caller := []

namespace Exchange

/-! ## 1. Steps -/

/-- The caller that waits under a number. -/
def caller? (x : Exchange) (id : Nat) : Option Caller := x.callers.find? (·.ticket.id == id)

/-- The exchange without the caller of a number. -/
def leave (x : Exchange) (id : Nat) (correlator : Correlator) : Exchange :=
  { x with correlator, callers := x.callers.filter (·.ticket.id != id) }

/-- **One event.** What names a caller that is not there is nothing. -/
def step (x : Exchange) : Event → Exchange × Option Mark
  | .connection state => ({ x with connection := state }, none)
  | .request kind data timestamp takes limit =>
    match x.correlator.issue x.connection takes kind data timestamp with
    | (.ok (ticket, frame), correlator) =>
      let caller : Caller := { ticket, limit }
      ({ x with correlator, callers := x.callers ++ [caller] }, some (.sent caller frame))
    | (.error e, correlator) => ({ x with correlator }, some (.refused e))
  | .response r =>
    let (taken, correlator) := x.correlator.resolve r
    ({ x with correlator }, some (.answered r taken))
  | .wake id =>
    match x.caller? id with
    | none => (x, none)
    | some caller =>
      match x.correlator.collect caller.ticket with
      | none => (x, none)
      | some (outcome, correlator) => (x.leave id correlator, some (.returned id outcome))
  | .timeUp id =>
    match x.caller? id with
    | none => (x, none)
    | some caller =>
      let (outcome, correlator) := x.correlator.expire caller.ticket caller.limit
      (x.leave id correlator, some (.returned id outcome))
  | .drop id =>
    match x.caller? id with
    | none => (x, none)
    | some _ => (x.leave id (x.correlator.abandon id), some (.dropped id))

/-- **The exchange after a run.** -/
def after (x : Exchange) (es : List Event) : Exchange := es.foldl (fun x e => (x.step e).1) x

/-- **The marks of a run**, in their order. -/
def trace (x : Exchange) : List Event → List Mark
  | [] => []
  | e :: rest => (x.step e).2.toList ++ trace (x.step e).1 rest

/-- An exchange without requests. -/
def start (connection : ConnectionState) : Exchange := { connection }

/-! ## 2. Who waits -/

theorem caller?_append (x : Exchange) (correlator : Correlator) (caller : Caller) (n : Nat) :
    caller? { x with correlator, callers := x.callers ++ [caller] } n =
      (x.caller? n).or (if caller.ticket.id = n then some caller else none) := by
  have happend : caller? { x with correlator, callers := x.callers ++ [caller] } n
      = (x.callers ++ [caller]).find? (·.ticket.id == n) := rfl
  rw [happend, List.find?_append, caller?, List.find?_singleton]
  by_cases hid : caller.ticket.id = n <;> simp [hid]

theorem caller?_leave (x : Exchange) (id : Nat) (correlator : Correlator) (n : Nat) :
    (x.leave id correlator).caller? n = if n = id then none else x.caller? n := by
  have hleave : (x.leave id correlator).caller? n
      = (x.callers.filter (·.ticket.id != id)).find? (·.ticket.id == n) := rfl
  rw [hleave, List.find?_filter, caller?]
  by_cases hn : n = id
  · subst hn
    rw [if_pos rfl, List.find?_eq_none]
    intro caller _
    simp
  · rw [if_neg hn]
    congr 1
    funext caller
    by_cases hid : caller.ticket.id = n
    · simp [hid, hn]
    · simp [hid]

theorem id_of_caller? {x : Exchange} {n : Nat} {caller : Caller} (h : x.caller? n = some caller) :
    caller.ticket.id = n := by
  have hfound := List.find?_some h
  exact beq_iff_eq.mp hfound

/-! ## 3. Where a request stands -/

/-- Where the request of a number stands. -/
def standing (x : Exchange) (n : Nat) : Standing :=
  match x.caller? n, x.correlator.outcome? n with
  | none, _ => .absent
  | some caller, none => .waiting caller
  | some caller, some outcome => .settled caller outcome

theorem standing_absent {x : Exchange} {n : Nat} (hc : x.caller? n = none) : x.standing n = .absent := by
  rw [standing, hc]

theorem standing_waiting {x : Exchange} {n : Nat} {caller : Caller} (hc : x.caller? n = some caller)
    (ho : x.correlator.outcome? n = none) : x.standing n = .waiting caller := by
  rw [standing, hc, ho]

theorem standing_settled {x : Exchange} {n : Nat} {caller : Caller} {outcome : Outcome Json}
    (hc : x.caller? n = some caller) (ho : x.correlator.outcome? n = some outcome) :
    x.standing n = .settled caller outcome := by
  rw [standing, hc, ho]

theorem caller?_of_waiting {x : Exchange} {n : Nat} {caller : Caller}
    (hs : x.standing n = .waiting caller) :
    x.caller? n = some caller ∧ x.correlator.outcome? n = none := by
  cases hc : x.caller? n with
  | none =>
    rw [standing_absent hc] at hs
    exact absurd hs (by simp)
  | some caller' =>
    cases ho : x.correlator.outcome? n with
    | none =>
      rw [standing_waiting hc ho] at hs
      obtain rfl : caller' = caller := Standing.waiting.inj hs
      exact ⟨rfl, rfl⟩
    | some outcome =>
      rw [standing_settled hc ho] at hs
      exact absurd hs (by simp)

/-- A request stands where it stood when its caller and its outcome are as before. -/
theorem standing_congr {x y : Exchange} {n : Nat} (hc : y.caller? n = x.caller? n)
    (ho : y.correlator.outcome? n = x.correlator.outcome? n) : y.standing n = x.standing n := by
  rw [standing, hc, ho, standing]

theorem standing_leave (x : Exchange) (id n : Nat) :
    (x.leave id (x.correlator.abandon id)).standing n = if n = id then .absent else x.standing n := by
  by_cases hn : n = id
  · rw [if_pos hn]
    exact standing_absent (by rw [caller?_leave, if_pos hn])
  · rw [if_neg hn]
    have houtcome : (x.leave id (x.correlator.abandon id)).correlator.outcome? n
        = (x.correlator.abandon id).outcome? n := rfl
    refine standing_congr ?_ ?_
    · rw [caller?_leave, if_neg hn]
    · rw [houtcome, Correlator.outcome?_abandon, if_neg hn]

/-- **A caller that runs again** returns if its request is settled. -/
theorem step_wake (x : Exchange) (n : Nat) :
    x.step (.wake n) =
      match x.standing n with
      | .settled _ outcome => (x.leave n (x.correlator.abandon n), some (.returned n outcome))
      | _ => (x, none) := by
  rw [step]
  cases hc : x.caller? n with
  | none => rw [standing_absent hc]
  | some caller =>
    dsimp only
    rw [Correlator.collect, id_of_caller? hc]
    cases ho : x.correlator.outcome? n with
    | none =>
      rw [standing_waiting hc ho]
      rfl
    | some outcome =>
      rw [standing_settled hc ho]
      rfl

/-- **A caller whose timer fires** returns in any case. -/
theorem step_timeUp (x : Exchange) (n : Nat) :
    x.step (.timeUp n) =
      match x.standing n with
      | .absent => (x, none)
      | .waiting caller => (x.leave n (x.correlator.abandon n), some (.returned n caller.timedOut))
      | .settled _ outcome => (x.leave n (x.correlator.abandon n), some (.returned n outcome)) := by
  rw [step]
  cases hc : x.caller? n with
  | none => rw [standing_absent hc]
  | some caller =>
    dsimp only
    rw [Correlator.expire_eq, id_of_caller? hc]
    cases ho : x.correlator.outcome? n with
    | none =>
      rw [standing_waiting hc ho]
      rfl
    | some outcome =>
      rw [standing_settled hc ho]
      rfl

/-- **A caller that goes away** does so in any case. -/
theorem step_drop (x : Exchange) (n : Nat) :
    x.step (.drop n) =
      match x.standing n with
      | .absent => (x, none)
      | _ => (x.leave n (x.correlator.abandon n), some (.dropped n)) := by
  rw [step]
  cases hc : x.caller? n with
  | none => rw [standing_absent hc]
  | some caller =>
    cases ho : x.correlator.outcome? n with
    | none => rw [standing_waiting hc ho]
    | some outcome => rw [standing_settled hc ho]

/-! ## 4. What every run keeps -/

/-- **The invariant of a run.** Callers wait under numbers that were given out; an entry is pending exactly
    while its caller waits without an outcome; and no outcome outlives its caller. -/
structure Valid (x : Exchange) : Prop where
  caller_lt : ∀ caller ∈ x.callers, caller.ticket.id < x.correlator.nextId
  isPending_eq : ∀ n, x.correlator.isPending n
    = ((x.caller? n).isSome && (x.correlator.outcome? n).isNone)
  outcome_caller : ∀ n, x.caller? n = none → x.correlator.outcome? n = none

namespace Valid

variable {x : Exchange}

/-- Nobody waits under a number that was not given out. -/
theorem caller?_fresh (h : Valid x) {n : Nat} (hn : x.correlator.nextId ≤ n) : x.caller? n = none := by
  rw [caller?, List.find?_eq_none]
  intro caller hcaller
  have hlt := h.caller_lt caller hcaller
  simp only [beq_iff_eq]
  omega

theorem start (connection : ConnectionState) : Valid (start connection) where
  caller_lt := fun _ hcaller => absurd hcaller List.not_mem_nil
  isPending_eq := fun _ => rfl
  outcome_caller := fun _ _ => rfl

/-- A request whose frame is taken: one more number, one more caller, one more entry. -/
theorem enter (h : Valid x) (kind : RequestKind) (limit : Nat) :
    Valid { x with
      correlator := x.correlator.enter kind
      callers := x.callers ++ [{ ticket := { id := x.correlator.nextId, kind }, limit }] } where
  caller_lt := by
    intro caller hcaller
    rcases List.mem_append.mp hcaller with hold | hnew
    · exact Nat.lt_succ_of_lt (h.caller_lt caller hold)
    · rw [List.mem_singleton.mp hnew]
      exact Nat.lt_succ_self _
  isPending_eq := by
    intro n
    have houtcome : (x.correlator.enter kind).outcome? n = x.correlator.outcome? n := rfl
    rw [caller?_append]
    simp only [Correlator.isPending_enter, houtcome, h.isPending_eq n]
    by_cases hn : n = x.correlator.nextId
    · -- Nobody waits under the new number yet, so no outcome can be there that would settle it at once.
      subst hn
      have hnone := h.caller?_fresh (Nat.le_refl _)
      rw [hnone, h.outcome_caller _ hnone]
      simp
    · have hn' : x.correlator.nextId ≠ n := fun heq => hn heq.symm
      simp [hn, hn']
  outcome_caller := by
    intro n hn
    rw [caller?_append, Option.or_eq_none_iff] at hn
    exact h.outcome_caller n hn.1

/-- A request whose frame is not taken spends its number and nothing else. -/
theorem spend (h : Valid x) (kind : RequestKind) :
    Valid { x with correlator := (x.correlator.enter kind).forget x.correlator.nextId } where
  caller_lt := fun caller hcaller => Nat.lt_succ_of_lt (h.caller_lt caller hcaller)
  isPending_eq := by
    intro n
    have houtcome : ((x.correlator.enter kind).forget x.correlator.nextId).outcome? n
        = x.correlator.outcome? n := rfl
    have hcaller : caller? { x with
        correlator := (x.correlator.enter kind).forget x.correlator.nextId } n = x.caller? n := rfl
    simp only [Correlator.isPending_forget, Correlator.isPending_enter, houtcome, hcaller]
    rw [h.isPending_eq n]
    by_cases hn : n = x.correlator.nextId
    · subst hn
      rw [h.caller?_fresh (Nat.le_refl _)]
      simp
    · simp [hn]
  outcome_caller := h.outcome_caller

/-- A response moves an entry from the table to the outcomes. -/
theorem resolve (h : Valid x) (r : Response) :
    Valid { x with correlator := (x.correlator.resolve r).2 } where
  caller_lt := by
    intro caller hcaller
    rw [Correlator.nextId_resolve]
    exact h.caller_lt caller hcaller
  isPending_eq := by
    intro n
    have hcaller : caller? { x with correlator := (x.correlator.resolve r).2 } n = x.caller? n := rfl
    simp only [Correlator.isPending_resolve, Correlator.outcome?_resolve, hcaller]
    by_cases hn : n = r.id
    · subst hn
      cases hpending : x.correlator.isPending r.id with
      | true => simp
      | false =>
        have hold := h.isPending_eq r.id
        rw [hpending] at hold
        simpa using hold
    · simpa [hn] using h.isPending_eq n
  outcome_caller := by
    intro n hn
    have hcaller : x.caller? n = none := hn
    have hpending : x.correlator.isPending n = false := by
      rw [h.isPending_eq n, hcaller]
      rfl
    rw [Correlator.outcome?_resolve]
    by_cases hid : n = r.id
    · subst hid
      simpa [hpending] using h.outcome_caller r.id hcaller
    · simpa [hid] using h.outcome_caller n hcaller

/-- A caller who is done leaves nothing behind and touches nobody else. -/
theorem leave (h : Valid x) (id : Nat) : Valid (x.leave id (x.correlator.abandon id)) where
  caller_lt := fun caller hcaller => h.caller_lt caller (List.mem_filter.mp hcaller).1
  isPending_eq := by
    intro n
    rw [caller?_leave]
    have hcorrelator : (x.leave id (x.correlator.abandon id)).correlator = x.correlator.abandon id := rfl
    rw [hcorrelator, Correlator.isPending_abandon, Correlator.outcome?_abandon]
    by_cases hn : n = id
    · simp [hn]
    · simpa [hn] using h.isPending_eq n
  outcome_caller := by
    intro n hn
    have hcorrelator : (x.leave id (x.correlator.abandon id)).correlator = x.correlator.abandon id := rfl
    rw [caller?_leave] at hn
    rw [hcorrelator, Correlator.outcome?_abandon]
    by_cases hid : n = id
    · rw [if_pos hid]
    · rw [if_neg hid] at hn ⊢
      exact h.outcome_caller n hn

/-- **Every step keeps the invariant.** -/
theorem step (h : Valid x) (e : Event) : Valid (x.step e).1 := by
  cases e with
  | connection state => exact ⟨h.caller_lt, h.isPending_eq, h.outcome_caller⟩
  | response r => exact h.resolve r
  | request kind data timestamp takes limit =>
    rw [Exchange.step, Correlator.issue_eq]
    cases x.connection.isOpen with
    | false => exact h
    | true =>
      cases takes with
      | false => exact h.spend kind
      | true => exact h.enter kind limit
  | wake id =>
    rw [step_wake]
    cases x.standing id with
    | absent | waiting caller => exact h
    | settled caller outcome => exact h.leave id
  | timeUp id =>
    rw [step_timeUp]
    cases x.standing id with
    | absent => exact h
    | waiting caller | settled caller outcome => exact h.leave id
  | drop id =>
    rw [step_drop]
    cases x.standing id with
    | absent => exact h
    | waiting caller | settled caller outcome => exact h.leave id

theorem after (h : Valid x) (es : List Event) : Valid (x.after es) := by
  induction es generalizing x with
  | nil => exact h
  | cons e rest ih => exact ih (h.step e)

end Valid

/-- **An entry is pending exactly while its request waits.** -/
theorem isPending_eq_standing {x : Exchange} (h : Valid x) (n : Nat) :
    x.correlator.isPending n =
      match x.standing n with
      | .waiting _ => true
      | _ => false := by
  rw [h.isPending_eq n, standing]
  cases x.caller? n <;> cases x.correlator.outcome? n <;> rfl

end Exchange
end LiveLog
