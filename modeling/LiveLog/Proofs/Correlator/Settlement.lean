import LiveLog.Proofs.Correlator.Lane

/-!
# How requests end

A request that goes out is settled once, whatever meets at the table: one response, or its time limit.
The proof reads a lane from beginning to end. There are only so many ways that the marks of one request
can look, and `Account` lists them; each event either leaves the account as it is or leads to the next
(`Account.step`), so after every run the account is one of the list. What a request returned, and
whether a response can still be taken, is then read off.
-/

namespace LiveLog

/-! ## 1. Accounts -/

/-- **The account of a request**: all marks about it, beside where it stands. -/
inductive Account (n : Nat) : Standing → List Mark → Prop
  /-- It was not made, or its frame was not taken. -/
  | silent : Account n .absent []
  | sent (caller : Caller) (frame : RequestFrame) (hid : caller.ticket.id = n) :
      Account n (.waiting caller) [.sent caller frame]
  | answered (caller : Caller) (frame : RequestFrame) (hid : caller.ticket.id = n) (r : Response)
      (hr : r.id = n) :
      Account n (.settled caller r.outcome) [.sent caller frame, .answered r true]
  | delivered (caller : Caller) (frame : RequestFrame) (hid : caller.ticket.id = n) (r : Response)
      (hr : r.id = n) :
      Account n .absent [.sent caller frame, .answered r true, .returned n r.outcome]
  | expired (caller : Caller) (frame : RequestFrame) (hid : caller.ticket.id = n) :
      Account n .absent [.sent caller frame, .returned n caller.timedOut]
  | dropped (caller : Caller) (frame : RequestFrame) (hid : caller.ticket.id = n) :
      Account n .absent [.sent caller frame, .dropped n]
  | droppedAnswered (caller : Caller) (frame : RequestFrame) (hid : caller.ticket.id = n) (r : Response)
      (hr : r.id = n) :
      Account n .absent [.sent caller frame, .answered r true, .dropped n]

/-- A lane whose marks so far are an account, and which leaves marks only after its number was given out. -/
structure Accounted (n : Nat) (l : Lane) (marks : List Mark) : Prop where
  account : Account n l.standing marks
  lt : marks ≠ [] → n < l.nextId

namespace Accounted

variable {n : Nat} {l : Lane} {marks : List Mark}

/-- What leaves no mark and moves nothing but numbers and the connection. -/
theorem still (h : Accounted n l marks) {l' : Lane} (hs : l'.standing = l.standing)
    (hn : l.nextId ≤ l'.nextId) : Accounted n l' (marks ++ (none : Option Mark).toList) where
  account := by
    rw [Option.toList_none, List.append_nil, hs]
    exact h.account
  lt := by
    rw [Option.toList_none, List.append_nil]
    exact fun hne => Nat.lt_of_lt_of_le (h.lt hne) hn

/-- A request is made once: its number is given out once. -/
theorem request (h : Accounted n l marks) (kind : RequestKind) (data : Json) (timestamp : String)
    (takes : Bool) (limit : Nat) :
    Accounted n (l.step n (.request kind data timestamp takes limit)).1
      (marks ++ (l.step n (.request kind data timestamp takes limit)).2.toList) := by
  rw [Lane.step]
  by_cases hopen : l.connection.isOpen = true
  · rw [if_pos hopen]
    by_cases htakes : (takes && l.nextId == n) = true
    · rw [if_pos htakes]
      have hnext : l.nextId = n := beq_iff_eq.mp (Bool.and_eq_true_iff.mp htakes).2
      -- A mark would mean that the number was given out before, and it is given out only now.
      cases marks with
      | nil => exact ⟨.sent _ _ rfl, fun _ => by dsimp only; omega⟩
      | cons m rest =>
        have hlt := h.lt (List.cons_ne_nil m rest)
        exact absurd hlt (by omega)
    · rw [if_neg htakes]
      exact h.still rfl (Nat.le_succ _)
  · rw [if_neg hopen]
    exact h.still rfl (Nat.le_refl _)

theorem answer (h : Accounted n l marks) {r : Response} (hr : r.id = n) :
    Accounted n (l.answer r).1 (marks ++ (l.answer r).2.toList) := by
  have haccount := h.account
  rw [Lane.answer]
  cases hs : l.standing with
  | absent | settled caller outcome => exact h.still rfl (Nat.le_refl _)
  | waiting caller =>
    rw [hs] at haccount
    cases haccount with
    | sent _ frame hid => exact ⟨.answered caller frame hid r hr, fun _ => h.lt (by simp)⟩

theorem wake (h : Accounted n l marks) :
    Accounted n (l.wake n).1 (marks ++ (l.wake n).2.toList) := by
  have haccount := h.account
  rw [Lane.wake]
  cases hs : l.standing with
  | absent | waiting caller => exact h.still rfl (Nat.le_refl _)
  | settled caller outcome =>
    rw [hs] at haccount
    cases haccount with
    | answered _ frame hid r hr => exact ⟨.delivered caller frame hid r hr, fun _ => h.lt (by simp)⟩

theorem timeUp (h : Accounted n l marks) :
    Accounted n (l.timeUp n).1 (marks ++ (l.timeUp n).2.toList) := by
  have haccount := h.account
  rw [Lane.timeUp]
  cases hs : l.standing with
  | absent => exact h.still rfl (Nat.le_refl _)
  | waiting caller =>
    rw [hs] at haccount
    cases haccount with
    | sent _ frame hid => exact ⟨.expired caller frame hid, fun _ => h.lt (by simp)⟩
  | settled caller outcome =>
    rw [hs] at haccount
    cases haccount with
    | answered _ frame hid r hr => exact ⟨.delivered caller frame hid r hr, fun _ => h.lt (by simp)⟩

theorem drop (h : Accounted n l marks) :
    Accounted n (l.drop n).1 (marks ++ (l.drop n).2.toList) := by
  have haccount := h.account
  rw [Lane.drop]
  cases hs : l.standing with
  | absent => exact h.still rfl (Nat.le_refl _)
  | waiting caller =>
    rw [hs] at haccount
    cases haccount with
    | sent _ frame hid => exact ⟨.dropped caller frame hid, fun _ => h.lt (by simp)⟩
  | settled caller outcome =>
    rw [hs] at haccount
    cases haccount with
    | answered _ frame hid r hr => exact ⟨.droppedAnswered caller frame hid r hr, fun _ => h.lt (by simp)⟩

/-- **Every event leads from an account to an account.** -/
theorem step (h : Accounted n l marks) (e : Event) :
    Accounted n (l.step n e).1 (marks ++ (l.step n e).2.toList) := by
  cases hc : e.concerns n with
  | false =>
    rw [Lane.step_other l hc]
    exact h.still rfl (Nat.le_refl _)
  | true =>
    cases e with
    | connection state => exact h.still rfl (Nat.le_refl _)
    | request kind data timestamp takes limit => exact h.request kind data timestamp takes limit
    | response r =>
      obtain rfl : r.id = n := beq_iff_eq.mp hc
      rw [Lane.step_response]
      exact h.answer rfl
    | wake id =>
      obtain rfl : id = n := beq_iff_eq.mp hc
      rw [Lane.step_wake]
      exact h.wake
    | timeUp id =>
      obtain rfl : id = n := beq_iff_eq.mp hc
      rw [Lane.step_timeUp]
      exact h.timeUp
    | drop id =>
      obtain rfl : id = n := beq_iff_eq.mp hc
      rw [Lane.step_drop]
      exact h.drop

/-- Accounts add up along a run. -/
theorem after (h : Accounted n l marks) (es : List Event) :
    Accounted n (l.after n es) (marks ++ l.trace n es) := by
  induction es generalizing l marks with
  | nil =>
    rw [Lane.trace, List.append_nil]
    exact h
  | cons e rest ih =>
    have hrest := ih (h.step e)
    rw [List.append_assoc] at hrest
    exact hrest

end Accounted

/-! ## 2. What an account says -/

namespace Mark

/-- Whether a mark is a response that was taken for a request. -/
def takes (n : Nat) : Mark → Bool
  | .answered r taken => taken && r.id == n
  | _ => false

/-- Whether a mark is the end of a request. -/
def ends (n : Nat) : Mark → Bool
  | .returned id _ => id == n
  | .dropped id => id == n
  | _ => false

theorem isOf_of_takes {n : Nat} (m : Mark) (h : m.takes n = true) : m.isOf n = true := by
  cases m with
  | answered r taken => exact h
  | _ => exact absurd h (by simp [takes])

theorem isOf_of_ends {n : Nat} (m : Mark) (h : m.ends n = true) : m.isOf n = true := by
  cases m with
  | returned id outcome | dropped id => exact h
  | _ => exact absurd h (by simp [ends])

/-- What is only true of marks about a request can be counted among those. -/
theorem countP_filter_isOf {n : Nat} {p : Mark → Bool} (marks : List Mark)
    (hp : ∀ m, p m = true → m.isOf n = true) :
    (marks.filter (·.isOf n)).countP p = marks.countP p := by
  rw [List.countP_filter]
  congr 1
  funext m
  cases hm : p m with
  | false => rfl
  | true => rw [Bool.true_and, hp m hm]

end Mark

namespace Account

variable {n : Nat} {s : Standing} {told : List Mark}

theorem countP_takes (h : Account n s told) : told.countP (·.takes n) ≤ 1 := by
  cases h <;> simp [Mark.takes, *]

theorem countP_ends (h : Account n s told) : told.countP (·.ends n) ≤ 1 := by
  cases h <;> simp [Mark.ends]

/-- What a request returns after a response was taken for it is that response. -/
theorem returned_of_answered (h : Account n s told) {r : Response} {o : Outcome Json}
    (hr : .answered r true ∈ told) (ho : .returned n o ∈ told) : o = r.outcome := by
  cases h with
  | delivered caller frame hid r' hr' =>
    have heq : r = r' := by simpa using hr
    rw [heq]
    simpa using ho
  | _ => simp at hr ho

/-- What a request returns without a response is that its time is up. -/
theorem returned_of_unanswered (h : Account n s told) {caller : Caller} {frame : RequestFrame}
    {o : Outcome Json} (hsent : .sent caller frame ∈ told) (hr : ∀ r, .answered r true ∉ told)
    (ho : .returned n o ∈ told) : o = caller.timedOut := by
  cases h with
  | expired caller' frame' hid =>
    have heq : caller = caller' ∧ frame = frame' := by simpa using hsent
    rw [heq.1]
    simpa using ho
  | delivered caller' frame' hid r' hr' => exact absurd (by simp) (hr r')
  | _ => simp at ho

/-- After a response was taken its request stands settled until it ends. -/
theorem settled_of_answered (h : Account n s told) {r : Response} (hr : .answered r true ∈ told)
    (hreturned : ∀ o, .returned n o ∉ told) (hdropped : .dropped n ∉ told) :
    ∃ caller, s = .settled caller r.outcome := by
  cases h with
  | answered caller frame hid r' hr' =>
    have heq : r = r' := by simpa using hr
    exact ⟨caller, by rw [heq]⟩
  | delivered caller frame hid r' hr' => exact absurd (by simp) (hreturned r'.outcome)
  | droppedAnswered caller frame hid r' hr' => exact absurd (by simp) hdropped
  | _ => simp at hr

/-- Without a response a request waits until it ends. -/
theorem waiting_of_sent (h : Account n s told) {caller : Caller} {frame : RequestFrame}
    (hsent : .sent caller frame ∈ told) (hr : ∀ r, .answered r true ∉ told)
    (hreturned : ∀ o, .returned n o ∉ told) (hdropped : .dropped n ∉ told) : s = .waiting caller := by
  cases h with
  | silent => simp at hsent
  | sent caller' frame' hid =>
    have heq : caller = caller' ∧ frame = frame' := by simpa using hsent
    rw [heq.1]
  | answered caller' frame' hid r' hr' => exact absurd (by simp) (hr r')
  | delivered caller' frame' hid r' hr' => exact absurd (by simp) (hr r')
  | expired caller' frame' hid => exact absurd (by simp) (hreturned caller'.timedOut)
  | dropped caller' frame' hid => exact absurd (by simp) hdropped
  | droppedAnswered caller' frame' hid r' hr' => exact absurd (by simp) hdropped

/-- A request that has ended is absent. -/
theorem absent_of_ended (h : Account n s told) {m : Mark} (hm : m ∈ told) (hend : m.ends n = true) :
    s = .absent := by
  cases h with
  | sent caller frame hid =>
    rw [List.mem_singleton.mp hm] at hend
    exact absurd hend (by simp [Mark.ends])
  | answered caller frame hid r hr =>
    have heq : m = .sent caller frame ∨ m = .answered r true := by simpa using hm
    rcases heq with rfl | rfl <;> exact absurd hend (by simp [Mark.ends])
  | _ => rfl

end Account

/-! ## 3. Every run -/

namespace Exchange

/-- **The marks about a request are an account**, in every run. -/
theorem accounted (connection : ConnectionState) (es : List Event) (n : Nat) :
    Account n (((start connection).after es).standing n)
      (((start connection).trace es).filter (·.isOf n)) := by
  have hstart : Accounted n ((start connection).lane n) [] := ⟨.silent, fun h => absurd rfl h⟩
  obtain ⟨hlane, htrace⟩ := lane_run (Valid.start connection) n es
  have hafter := (hstart.after es).account
  rw [List.nil_append, ← htrace, ← hlane] at hafter
  exact hafter

/-- A settled request returns its outcome when it runs again, also by its timer. -/
theorem step_settled {x : Exchange} {n : Nat} {caller : Caller} {outcome : Outcome Json}
    (hs : x.standing n = .settled caller outcome) :
    (x.step (.wake n)).2 = some (.returned n outcome) ∧
    (x.step (.timeUp n)).2 = some (.returned n outcome) := by
  constructor
  · rw [step_wake, hs]
  · rw [step_timeUp, hs]

/-- A waiting request returns that its time is up when its timer fires. -/
theorem step_waiting {x : Exchange} {n : Nat} {caller : Caller} (hs : x.standing n = .waiting caller) :
    (x.step (.timeUp n)).2 = some (.returned n caller.timedOut) := by
  rw [step_timeUp, hs]

/-- A response is not taken for a request that is absent. -/
theorem step_absent {x : Exchange} (h : Valid x) {r : Response} (hs : x.standing r.id = .absent) :
    (x.step (.response r)).2 = some (.answered r false) := by
  have hstep : (x.step (.response r)).2 = some (.answered r (x.correlator.resolve r).1) := rfl
  rw [hstep, Correlator.resolve_taken, isPending_eq_standing h, hs]

/-- **Requests are settled once.** In every run, and for every number:

    * at most one response is taken for it, and it ends at most once;
    * if a response was taken and its caller did not go away, it returned nothing but what the response
      says, and if it has not returned yet, the next time it runs it does, also if that is by its timer;
    * if a frame went out and no response was taken and its caller did not go away, it returned nothing
      but that its time is up, and if it has not returned yet, it does when its timer fires;
    * once it has ended no response is taken for it;
    * and its marks are the same in the run without the responses, wake-ups, timers and departures of
      all other requests. -/
theorem settled_exactly_once (connection : ConnectionState) (es : List Event) (n : Nat) :
    let x := (start connection).after es
    let marks := (start connection).trace es
    (marks.countP (·.takes n) ≤ 1 ∧ marks.countP (·.ends n) ≤ 1) ∧
    (∀ r, .answered r true ∈ marks → r.id = n → .dropped n ∉ marks →
      (∀ o, .returned n o ∈ marks → o = r.outcome) ∧
      ((∀ o, .returned n o ∉ marks) → (x.step (.wake n)).2 = some (.returned n r.outcome) ∧
        (x.step (.timeUp n)).2 = some (.returned n r.outcome))) ∧
    (∀ caller frame, .sent caller frame ∈ marks → caller.ticket.id = n →
      (∀ r, .answered r true ∈ marks → r.id ≠ n) → .dropped n ∉ marks →
      (∀ o, .returned n o ∈ marks → o = caller.timedOut) ∧
      ((∀ o, .returned n o ∉ marks) → (x.step (.timeUp n)).2 = some (.returned n caller.timedOut))) ∧
    (∀ m ∈ marks, m.ends n = true →
      ∀ r : Response, r.id = n → (x.step (.response r)).2 = some (.answered r false)) ∧
    ((start connection).trace (es.filter (·.concerns n))).filter (·.isOf n)
      = marks.filter (·.isOf n) := by
  intro x marks
  -- Everything is read off the account, so every mark is looked for among those about `n`.
  have hvalid : Valid x := (Valid.start connection).after es
  have haccount : Account n (x.standing n) (marks.filter (·.isOf n)) := accounted connection es n
  have htold : ∀ m : Mark, m.isOf n = true → (m ∈ marks.filter (·.isOf n) ↔ m ∈ marks) := by
    intro m hm
    rw [List.mem_filter]
    exact ⟨fun h => h.1, fun h => ⟨h, hm⟩⟩
  have hreturned : ∀ o, .returned n o ∈ marks.filter (·.isOf n) ↔ .returned n o ∈ marks :=
    fun o => htold (.returned n o) (beq_self_eq_true n)
  have hdropped : .dropped n ∈ marks.filter (·.isOf n) ↔ .dropped n ∈ marks :=
    htold (.dropped n) (beq_self_eq_true n)
  refine ⟨⟨?_, ?_⟩, ?_, ?_, ?_, ?_⟩
  · rw [← Mark.countP_filter_isOf marks fun m hm => m.isOf_of_takes hm]
    exact haccount.countP_takes
  · rw [← Mark.countP_filter_isOf marks fun m hm => m.isOf_of_ends hm]
    exact haccount.countP_ends
  · intro r hr hid hdrop
    have hanswered : .answered r true ∈ marks.filter (·.isOf n) :=
      (htold _ (by simp [Mark.isOf, hid])).mpr hr
    refine ⟨fun o ho => haccount.returned_of_answered hanswered ((hreturned o).mpr ho), fun hnot => ?_⟩
    obtain ⟨caller, hs⟩ := haccount.settled_of_answered hanswered
      (fun o ho => hnot o ((hreturned o).mp ho)) (fun hd => hdrop (hdropped.mp hd))
    exact step_settled hs
  · intro caller frame hsent hid hanswered hdrop
    have hsent' : .sent caller frame ∈ marks.filter (·.isOf n) :=
      (htold _ (by simp [Mark.isOf, hid])).mpr hsent
    have hunanswered : ∀ r, .answered r true ∉ marks.filter (·.isOf n) := by
      intro r hr
      obtain ⟨hr, hrn⟩ := List.mem_filter.mp hr
      exact hanswered r hr (by simpa [Mark.isOf] using hrn)
    refine ⟨fun o ho => haccount.returned_of_unanswered hsent' hunanswered ((hreturned o).mpr ho),
      fun hnot => ?_⟩
    exact step_waiting (haccount.waiting_of_sent hsent' hunanswered
      (fun o ho => hnot o ((hreturned o).mp ho)) (fun hd => hdrop (hdropped.mp hd)))
  · intro m hm hend r hid
    subst hid
    exact step_absent hvalid
      (haccount.absent_of_ended ((htold m (m.isOf_of_ends hend)).mpr hm) hend)
  · -- Both runs have the same lane, and a lane does not move for other requests.
    rw [(lane_run (Valid.start connection) n _).2, (lane_run (Valid.start connection) n es).2]
    exact Lane.trace_filter_concerns n _ es

/-- Three requests: the second is answered twice, and the caller of the third goes away. -/
def sampleRun (answer : Response) : List Event :=
  [.request .getLogs .null "" true 5, .request .getStats .null "" true 5,
    .request .clearLogs .null "" true 5, .response answer, .response answer, .drop 3]

/-- The request that was answered returns the answer, the one that was not returns that its time is up, and
    for the one whose caller is gone no response is taken. -/
theorem settled_each_its_way :
    let answer : Response := { id := 2, success := true, data := some (.bool true), error := none }
    let late : Response := { id := 3, success := true, data := none, error := none }
    let x := (start .open).after (sampleRun answer)
    (x.step (.wake 2)).2 = some (.returned 2 (.ok (.bool true))) ∧
    (x.step (.timeUp 1)).2 = some (.returned 1 (.error (.timeout 5 "get_logs request 1"))) ∧
    (x.step (.response late)).2 = some (.answered late false) := by
  intro answer late x
  have hmarks : (start .open).trace (sampleRun answer) =
      [.sent ⟨⟨1, .getLogs⟩, 5⟩ ⟨.getLogs, 1, .null, ""⟩,
        .sent ⟨⟨2, .getStats⟩, 5⟩ ⟨.getStats, 2, .null, ""⟩,
        .sent ⟨⟨3, .clearLogs⟩, 5⟩ ⟨.clearLogs, 3, .null, ""⟩,
        .answered answer true, .answered answer false, .dropped 3] := rfl
  have hsettled := (settled_exactly_once .open (sampleRun answer) 2).2.1
  have hwaiting := (settled_exactly_once .open (sampleRun answer) 1).2.2.1
  have hended := (settled_exactly_once .open (sampleRun answer) 3).2.2.2.1
  rw [hmarks] at hsettled hwaiting hended
  refine ⟨?_, ?_, ?_⟩
  · exact ((hsettled answer (by simp) rfl (by simp)).2 (by simp)).1
  · exact (hwaiting ⟨⟨1, .getLogs⟩, 5⟩ ⟨.getLogs, 1, .null, ""⟩ (by simp) rfl (by simp [answer])
      (by simp)).2 (by simp)
  · exact hended (.dropped 3) (by simp) rfl late rfl

end Exchange
end LiveLog
