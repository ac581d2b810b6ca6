import LiveLog.Proofs.Correlator.Exchange

/-!
# One request by itself

A run is about many requests, but what is said about it is said of one. So this file follows one number
through a run: its **lane** is the little of an exchange that matters to it, and a lane makes steps of
its own. `lane_step` is the point: taking a step and then looking at the lane is the same as looking at
the lane and then taking a step. A lane does not move for events of other requests (`Lane.step_other`),
and that is the whole reason why requests do not disturb each other.
-/

namespace LiveLog

/-- **What an exchange is to one number.** -/
structure Lane where
  connection : ConnectionState
  nextId : Nat
  standing : Standing

namespace Event

/-- Whether an event can matter to a number. Requests do, since they give numbers out. -/
def concerns (n : Nat) : Event → Bool
  | .connection _ => true
  | .request .. => true
  | .response r => r.id == n
  | .wake id => id == n
  | .timeUp id => id == n
  | .drop id => id == n

end Event

namespace Mark

/-- **Whether a mark is about a request.** A response that nobody waits for is about none. -/
def isOf (n : Nat) : Mark → Bool
  | .sent caller _ => caller.ticket.id == n
  | .refused _ => false
  | .answered r taken => taken && r.id == n
  | .returned id _ => id == n
  | .dropped id => id == n

end Mark

namespace Lane

/-! ## 1. Steps of a lane -/

/-- A response with the number of the lane. -/
def answer (l : Lane) (r : Response) : Lane × Option Mark :=
  match l.standing with
  | .waiting caller => ({ l with standing := .settled caller r.outcome }, some (.answered r true))
  | _ => (l, none)

/-- The caller runs again. -/
def wake (n : Nat) (l : Lane) : Lane × Option Mark :=
  match l.standing with
  | .settled _ outcome => ({ l with standing := .absent }, some (.returned n outcome))
  | _ => (l, none)

/-- The timer of the caller fires. -/
def timeUp (n : Nat) (l : Lane) : Lane × Option Mark :=
  match l.standing with
  | .absent => (l, none)
  | .waiting caller => ({ l with standing := .absent }, some (.returned n caller.timedOut))
  | .settled _ outcome => ({ l with standing := .absent }, some (.returned n outcome))

/-- The caller goes away. -/
def drop (n : Nat) (l : Lane) : Lane × Option Mark :=
  match l.standing with
  | .absent => (l, none)
  | _ => ({ l with standing := .absent }, some (.dropped n))

/-- **One event, as a lane sees it.** -/
def step (n : Nat) (l : Lane) : Event → Lane × Option Mark
  | .connection state => ({ l with connection := state }, none)
  | .request kind data timestamp takes limit =>
    if l.connection.isOpen then
      if takes && l.nextId == n then
        let caller : Caller := { ticket := { id := n, kind }, limit }
        ({ l with nextId := l.nextId + 1, standing := .waiting caller },
          some (.sent caller { kind, id := n, data, timestamp }))
      else ({ l with nextId := l.nextId + 1 }, none)
    else (l, none)
  | .response r => if r.id == n then l.answer r else (l, none)
  | .wake id => if id == n then l.wake n else (l, none)
  | .timeUp id => if id == n then l.timeUp n else (l, none)
  | .drop id => if id == n then l.drop n else (l, none)

/-- The lane after a run. -/
def after (n : Nat) (l : Lane) (es : List Event) : Lane := es.foldl (fun l e => (l.step n e).1) l

/-- The marks that a lane leaves in a run. -/
def trace (n : Nat) (l : Lane) : List Event → List Mark
  | [] => []
  | e :: rest => (l.step n e).2.toList ++ trace n (l.step n e).1 rest

theorem step_response (l : Lane) (r : Response) : l.step r.id (.response r) = l.answer r :=
  if_pos (beq_self_eq_true r.id)

theorem step_wake (n : Nat) (l : Lane) : l.step n (.wake n) = l.wake n := if_pos (beq_self_eq_true n)

theorem step_timeUp (n : Nat) (l : Lane) : l.step n (.timeUp n) = l.timeUp n := if_pos (beq_self_eq_true n)

theorem step_drop (n : Nat) (l : Lane) : l.step n (.drop n) = l.drop n := if_pos (beq_self_eq_true n)

/-- **What concerns other requests is nothing to a lane.** -/
theorem step_other {n : Nat} (l : Lane) {e : Event} (he : e.concerns n = false) :
    l.step n e = (l, none) := by
  cases e with
  | connection state => exact absurd he (by simp [Event.concerns])
  | request kind data timestamp takes limit => exact absurd he (by simp [Event.concerns])
  | response r | wake id | timeUp id | drop id =>
    rw [Event.concerns] at he
    rw [step, he]
    rfl

theorem trace_filter_concerns (n : Nat) (l : Lane) (es : List Event) :
    l.trace n (es.filter (·.concerns n)) = l.trace n es := by
  induction es generalizing l with
  | nil => rfl
  | cons e rest ih =>
    cases he : e.concerns n with
    | true =>
      rw [List.filter_cons_of_pos he, trace, trace, ih]
    | false =>
      rw [List.filter_cons_of_neg (by simp [he]), ih, trace, step_other l he]
      rfl

end Lane

/-! ## 2. The lanes of an exchange -/

namespace Exchange

/-- The lane of a number. -/
def lane (x : Exchange) (n : Nat) : Lane :=
  { connection := x.connection, nextId := x.correlator.nextId, standing := x.standing n }

/-- **What is seen of a step** from a lane: the lane after it, and its mark if that is about the lane. -/
def seen (n : Nat) (after : Exchange × Option Mark) : Lane × Option Mark :=
  (after.1.lane n, after.2.filter (·.isOf n))

/-- A caller who is done is seen from its own lane. -/
theorem seen_leave (x : Exchange) (n : Nat) {m : Mark} (hm : m.isOf n = true) :
    seen n (x.leave n (x.correlator.abandon n), some m)
      = ({ x.lane n with standing := .absent }, some m) := by
  have hstanding := standing_leave x n n
  rw [if_pos rfl] at hstanding
  rw [seen, lane, hstanding, Option.filter_some, if_pos hm]
  rfl

/-- It is not seen from any other. -/
theorem seen_leave_other (x : Exchange) {id n : Nat} (hid : (id == n) = false) {m : Mark}
    (hm : m.isOf n = false) :
    seen n (x.leave id (x.correlator.abandon id), some m) = (x.lane n, none) := by
  have hne : n ≠ id := fun h => by simp [h] at hid
  have hstanding := standing_leave x id n
  rw [if_neg hne] at hstanding
  rw [seen, lane, hstanding, Option.filter_some, if_neg (by simp [hm])]
  rfl

/-! ## 3. A step and its lane -/

/-- **What concerns other requests is not seen from a lane.** -/
theorem seen_other (x : Exchange) {n : Nat} {e : Event} (he : e.concerns n = false) :
    seen n (x.step e) = (x.lane n, none) := by
  cases e with
  | connection state => exact absurd he (by simp [Event.concerns])
  | request kind data timestamp takes limit => exact absurd he (by simp [Event.concerns])
  | response r =>
    have hid : (r.id == n) = false := he
    have hne : n ≠ r.id := fun h => by simp [h] at hid
    have houtcome := x.correlator.outcome?_resolve r n
    rw [if_neg fun h => hne h.2] at houtcome
    have hstanding : standing { x with correlator := (x.correlator.resolve r).2 } n = x.standing n :=
      standing_congr rfl houtcome
    have hmark : Mark.isOf n (.answered r (x.correlator.resolve r).1) = false := by
      rw [Mark.isOf, hid, Bool.and_false]
    have hseen : seen n (x.step (.response r)) =
        (lane { x with correlator := (x.correlator.resolve r).2 } n,
          (some (Mark.answered r (x.correlator.resolve r).1)).filter (·.isOf n)) := rfl
    rw [hseen, lane, hstanding, Option.filter_some, if_neg (by simp [hmark])]
    simp only [Correlator.nextId_resolve]
    rfl
  | wake id =>
    rw [step_wake]
    cases x.standing id with
    | absent | waiting caller => rfl
    | settled caller outcome => exact seen_leave_other x he he
  | timeUp id =>
    rw [step_timeUp]
    cases x.standing id with
    | absent => rfl
    | waiting caller | settled caller outcome => exact seen_leave_other x he he
  | drop id =>
    rw [step_drop]
    cases x.standing id with
    | absent => rfl
    | waiting caller | settled caller outcome => exact seen_leave_other x he he

theorem seen_request {x : Exchange} (h : Valid x) (n : Nat) (kind : RequestKind) (data : Json)
    (timestamp : String) (takes : Bool) (limit : Nat) :
    seen n (x.step (.request kind data timestamp takes limit))
      = (x.lane n).step n (.request kind data timestamp takes limit) := by
  have hconnection : (x.lane n).connection = x.connection := rfl
  have hnext : (x.lane n).nextId = x.correlator.nextId := rfl
  rw [step, Correlator.issue_eq, Lane.step, hconnection, hnext]
  cases x.connection.isOpen with
  | false => rfl
  | true =>
    cases takes with
    | false => rfl
    | true =>
      by_cases hn : x.correlator.nextId = n
      · -- The number is new, so nobody waits under it and nothing is laid down for it.
        subst hn
        have hnone := h.caller?_fresh (Nat.le_refl _)
        have hstanding : standing { x with
            correlator := x.correlator.enter kind
            callers := x.callers ++ [{ ticket := { id := x.correlator.nextId, kind }, limit }] }
            x.correlator.nextId
              = .waiting { ticket := { id := x.correlator.nextId, kind }, limit } := by
          refine standing_waiting ?_ (h.outcome_caller _ hnone)
          rw [caller?_append, hnone, if_pos rfl]
          rfl
        simp only [if_pos, seen, lane, hstanding, Bool.true_and, beq_self_eq_true]
        simp [Mark.isOf, Correlator.nextFrame, Correlator.enter]
      · have hstanding : standing { x with
            correlator := x.correlator.enter kind
            callers := x.callers ++ [{ ticket := { id := x.correlator.nextId, kind }, limit }] } n
              = x.standing n := by
          refine standing_congr ?_ rfl
          rw [caller?_append, if_neg hn, Option.or_none]
        simp only [if_pos, seen, lane, hstanding, Bool.true_and, beq_false_of_ne hn]
        simp [Mark.isOf, Correlator.enter, hn]

theorem seen_response {x : Exchange} (h : Valid x) (r : Response) :
    seen r.id (x.step (.response r)) = (x.lane r.id).answer r := by
  have houtcome := x.correlator.outcome?_resolve r r.id
  have hcaller : caller? { x with correlator := (x.correlator.resolve r).2 } r.id = x.caller? r.id := rfl
  have hseen : seen r.id (x.step (.response r)) =
      ({ x.lane r.id with
          nextId := (x.correlator.resolve r).2.nextId
          standing := standing { x with correlator := (x.correlator.resolve r).2 } r.id },
        (some (Mark.answered r (x.correlator.resolve r).1)).filter (·.isOf r.id)) := rfl
  have hlane : (x.lane r.id).standing = x.standing r.id := rfl
  rw [hseen, Correlator.nextId_resolve, Correlator.resolve_taken, Lane.answer, hlane]
  cases hs : x.standing r.id with
  | waiting caller =>
    obtain ⟨hc, ho⟩ := caller?_of_waiting hs
    have hpending : x.correlator.isPending r.id = true := by
      rw [h.isPending_eq, hc, ho]
      rfl
    rw [if_pos ⟨hpending, rfl⟩] at houtcome
    rw [standing_settled (hcaller.trans hc) houtcome, hpending]
    simp [Mark.isOf, lane]
  | absent | settled caller outcome =>
    have hpending : x.correlator.isPending r.id = false := by
      rw [isPending_eq_standing h, hs]
    rw [if_neg (by simp [hpending])] at houtcome
    rw [standing_congr hcaller houtcome, hs, hpending]
    simp [Mark.isOf, lane, hs]

theorem seen_wake (x : Exchange) (n : Nat) : seen n (x.step (.wake n)) = (x.lane n).wake n := by
  have hlane : (x.lane n).standing = x.standing n := rfl
  rw [step_wake, Lane.wake, hlane]
  cases hs : x.standing n with
  | absent | waiting caller => rfl
  | settled caller outcome => exact seen_leave x n (beq_self_eq_true n)

theorem seen_timeUp (x : Exchange) (n : Nat) : seen n (x.step (.timeUp n)) = (x.lane n).timeUp n := by
  have hlane : (x.lane n).standing = x.standing n := rfl
  rw [step_timeUp, Lane.timeUp, hlane]
  cases hs : x.standing n with
  | absent => rfl
  | waiting caller | settled caller outcome => exact seen_leave x n (beq_self_eq_true n)

theorem seen_drop (x : Exchange) (n : Nat) : seen n (x.step (.drop n)) = (x.lane n).drop n := by
  have hlane : (x.lane n).standing = x.standing n := rfl
  rw [step_drop, Lane.drop, hlane]
  cases hs : x.standing n with
  | absent => rfl
  | waiting caller | settled caller outcome => exact seen_leave x n (beq_self_eq_true n)

/-- **A step and then its lane is the lane and then its step.** -/
theorem lane_step {x : Exchange} (h : Valid x) (n : Nat) (e : Event) :
    seen n (x.step e) = (x.lane n).step n e := by
  cases hc : e.concerns n with
  | false => rw [seen_other x hc, Lane.step_other _ hc]
  | true =>
    cases e with
    | connection state => rfl
    | request kind data timestamp takes limit => exact seen_request h n kind data timestamp takes limit
    | response r =>
      obtain rfl : r.id = n := beq_iff_eq.mp hc
      rw [Lane.step_response, seen_response h r]
    | wake id =>
      obtain rfl : id = n := beq_iff_eq.mp hc
      rw [Lane.step_wake, seen_wake]
    | timeUp id =>
      obtain rfl : id = n := beq_iff_eq.mp hc
      rw [Lane.step_timeUp, seen_timeUp]
    | drop id =>
      obtain rfl : id = n := beq_iff_eq.mp hc
      rw [Lane.step_drop, seen_drop]

/-! ## 4. A run and its lane -/

/-- **A run and then its lane is the lane and then its run**, and the marks about a request are the marks
    that its lane leaves. -/
theorem lane_run {x : Exchange} (h : Valid x) (n : Nat) (es : List Event) :
    (x.after es).lane n = (x.lane n).after n es ∧
    (x.trace es).filter (·.isOf n) = (x.lane n).trace n es := by
  induction es generalizing x with
  | nil => exact ⟨rfl, rfl⟩
  | cons e rest ih =>
    have hstep := lane_step h n e
    have hlane : (x.step e).1.lane n = ((x.lane n).step n e).1 := congrArg Prod.fst hstep
    have hmark : (x.step e).2.filter (·.isOf n) = ((x.lane n).step n e).2 := congrArg Prod.snd hstep
    obtain ⟨hafter, htrace⟩ := ih (h.step e)
    rw [hlane] at hafter htrace
    refine ⟨hafter, ?_⟩
    rw [trace, List.filter_append, htrace, Lane.trace, ← hmark]
    congr 1
    cases (x.step e).2 with
    | none => rfl
    | some m => cases hm : m.isOf n <;> simp [Option.filter_some, hm]

end Exchange
end LiveLog
