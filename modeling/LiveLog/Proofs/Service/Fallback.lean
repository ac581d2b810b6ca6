import LiveLog.Net.Service
import LiveLog.Proofs.Correlator.Settlement
import LiveLog.Proofs.Json.Number

/-!
# Falling back to the web

A call may ask twice, once on the stream and once over the web, and for a call that destroys something
this had better be right. Two things are to be shown. The second request is made **exactly if the way failed
and not the server**: an answer of any kind, also a refusal and also one that nobody can read, ends the call
(`FallsBack`). And the second request asks for what the first one asked for. The two have nothing in common
in their form, so each is read back: both read as the operation that was called, with its arguments.

What counts as an answer is settled at the table of requests. A request that returned there was lost on the
way exactly if no response was taken for it (`Account.lost_iff`), so a response that arrives as the time
runs out counts as an answer too.
-/

namespace LiveLog

/-! ## 1. What a request asks for -/

/-- The whole number that a value is. -/
def Json.natural? : Json → Option Nat
  | .number (.natural n) => some n
  | _ => none

namespace Operation

/-- What a request on the stream asks for. -/
def ofStream? (kind : RequestKind) (data : Json) : Option Operation :=
  match kind with
  | .getLogs => do
    let limit ← (data.get? "limit").bind Json.natural?
    let offset ← (data.get? "offset").bind Json.natural?
    some (.fetchLogs limit offset)
  | .getStats => some .fetchStats
  | .clearLogs => some .clearLogs
  | .getLogsByLevel => do
    let level ← (data.get? "level").bind Json.text?
    some (.fetchLogsByLevel level)
  | .downloadLogs => do
    let name ← (data.get? "format").bind Json.text?
    let format ← LogFormat.choices.lookup name
    some (.downloadLogs format)

/-- What a request over the web asks for, by its method, its path and its query. -/
def ofWeb? (method : WebMethod) (path : String) (query : List (String × String)) : Option Operation :=
  match method with
  | .delete => if path = Endpoints.logsPath ∧ query = [] then some .clearLogs else none
  | .get =>
    if path = Endpoints.logsPath then
      match query.lookup "level" with
      | some level => some (.fetchLogsByLevel level)
      | none => do
        let limit ← query.lookup "limit"
        let offset ← query.lookup "offset"
        some (.fetchLogs (NumberText.number limit.toList) (NumberText.number offset.toList))
    else if path = Endpoints.statsPath then some .fetchStats
    else if path = Endpoints.downloadPath then do
      let name ← query.lookup "type"
      let format ← LogFormat.choices.lookup name
      some (.downloadLogs format)
    else none

end Operation

/-- **A web request asks a server for an operation.** -/
def WebRequest.Asks (e : Endpoints) (op : Operation) (r : WebRequest) : Prop :=
  ∃ path query, r.url = e.url e.pageScheme path query ∧ Operation.ofWeb? r.method path query = some op

namespace Operation

theorem ofStream?_data (op : Operation) : ofStream? op.kind op.data = some op := by
  cases op with
  | fetchLogs limit offset =>
    -- Members are sorted by key, and these stand in order already.
    have hne : "offset" ≠ "limit" := by decide
    have hnlt : ¬ "offset" < "limit" := by decide
    have hdata : data (.fetchLogs limit offset)
        = .object [("limit", Json.natural limit), ("offset", Json.natural offset)] := by
      rw [data, Json.ofMembers, List.foldl_cons, List.foldl_cons, List.foldl_nil, Json.insert, Json.insert,
        if_neg hne, if_neg hnlt, Json.insert]
    rw [hdata]
    rfl
  | downloadLogs format => cases format <;> rfl
  | fetchStats | clearLogs | fetchLogsByLevel => rfl

theorem asks_webRequest (e : Endpoints) (op : Operation) : (op.webRequest e).Asks e op := by
  cases op with
  | fetchLogs limit offset =>
    refine ⟨Endpoints.logsPath, [("limit", toString limit), ("offset", toString offset)], rfl, ?_⟩
    show some (fetchLogs (NumberText.number (toString limit).toList)
      (NumberText.number (toString offset).toList)) = _
    rw [NumberText.number_toString, NumberText.number_toString]
  | fetchStats => exact ⟨Endpoints.statsPath, [], rfl, rfl⟩
  | clearLogs => exact ⟨Endpoints.logsPath, [], rfl, rfl⟩
  | fetchLogsByLevel level => exact ⟨Endpoints.logsPath, [("level", level)], rfl, rfl⟩
  | downloadLogs format =>
    refine ⟨Endpoints.downloadPath, [("type", format.name)], rfl, ?_⟩
    cases format <;> rfl

end Operation

/-! ## 2. What is lost on the way -/

/-- **A request is lost on the way**: it could not be sent, nothing came back in time, or the way broke. -/
def LostOnTheWay (answer : Outcome Json) : Prop :=
  answer = .error .notConnected ∨ (∃ ms context, answer = .error (.timeout ms context)) ∨
    ∃ text, answer = .error (.transport text)

theorem lostOnTheWay_error_iff (fault : ClientError) :
    LostOnTheWay (.error fault) ↔ fault.isTransport = true := by
  cases fault <;> simp [LostOnTheWay, ClientError.isTransport]

theorem not_lostOnTheWay_ok (data : Json) : ¬ LostOnTheWay (.ok data) := by
  simp [LostOnTheWay]

theorem Response.not_lostOnTheWay (r : Response) : ¬ LostOnTheWay r.outcome := by
  rw [outcome]
  cases r.success with
  | true => exact not_lostOnTheWay_ok _
  | false => simp [lostOnTheWay_error_iff, ClientError.isTransport]

theorem Caller.lostOnTheWay_timedOut (c : Caller) : LostOnTheWay c.timedOut :=
  .inr (.inl ⟨_, _, rfl⟩)

/-- **What returned was lost exactly if no response was taken.** -/
theorem Account.lost_iff {n : Nat} {s : Standing} {told : List Mark} (h : Account n s told)
    {o : Outcome Json} (ho : .returned n o ∈ told) :
    LostOnTheWay o ↔ ∀ r, .answered r true ∉ told := by
  cases h with
  | delivered caller frame hid r hr =>
    obtain rfl : o = r.outcome := by simpa using ho
    constructor
    · intro hlost
      exact absurd hlost r.not_lostOnTheWay
    · intro hnone
      exact absurd (by simp) (hnone r)
  | expired caller frame hid =>
    obtain rfl : o = caller.timedOut := by simpa using ho
    constructor
    · intro _ r
      simp
    · intro _
      exact caller.lostOnTheWay_timedOut
  | silent | sent | answered | dropped | droppedAnswered => simp at ho

/-! ## 3. Calls -/

namespace Operation

/-- **What an answer on the stream gives**, when it is final. -/
def verdict (op : Operation) : Outcome Json → Outcome Answer
  | .error fault => .error fault
  | .ok data =>
    match op.decode data with
    | .ok answer => .ok answer
    | .error why => .error (.parse why.message)

theorem settled?_of_lost (op : Operation) {answer : Outcome Json} (h : LostOnTheWay answer) :
    op.settled? answer = none := by
  cases answer with
  | ok data => exact absurd h (not_lostOnTheWay_ok data)
  | error fault => rw [settled?, (lostOnTheWay_error_iff fault).mp h, if_pos rfl]

theorem settled?_of_not_lost (op : Operation) {answer : Outcome Json} (h : ¬ LostOnTheWay answer) :
    op.settled? answer = some (op.verdict answer) := by
  cases answer with
  | ok data =>
    rw [settled?, verdict]
    cases op.decode data <;> rfl
  | error fault => rw [settled?, if_neg (mt (lostOnTheWay_error_iff fault).mpr h), verdict]

/-- **How a call may go**: it has to do without the stream, or the stream loses the request, or the stream
    answers. -/
inductive Goes (op : Operation) (e : Endpoints) (ms : Nat) (state : ConnectionState) (answer : Outcome Json)
    (reply : Except WebFault WebReply) : Call → Prop
  | without (hclosed : state ≠ .open) :
      Goes op e ms state answer reply
        { streamed := [], fetched := [op.webRequest e], outcome := op.fetched e ms reply }
  | lost (hopen : state = .open) (hlost : LostOnTheWay answer) :
      Goes op e ms state answer reply
        { streamed := [(op.kind, op.data)], fetched := [op.webRequest e],
          outcome := op.fetched e ms reply }
  | answered (hopen : state = .open) (hkept : ¬ LostOnTheWay answer) :
      Goes op e ms state answer reply
        { streamed := [(op.kind, op.data)], fetched := [], outcome := op.verdict answer }

theorem goes_call (op : Operation) (e : Endpoints) (ms : Nat) (state : ConnectionState)
    (stream : RequestKind → Json → Outcome Json) (web : WebRequest → Except WebFault WebReply) :
    Goes op e ms state (stream op.kind op.data) (web (op.webRequest e))
      (op.call e ms state stream web) := by
  rw [call]
  by_cases hopen : state = .open
  · subst hopen
    have hisOpen : ConnectionState.open.isOpen = true := rfl
    rw [if_pos hisOpen]
    by_cases hlost : LostOnTheWay (stream op.kind op.data)
    · rw [op.settled?_of_lost hlost]
      exact .lost rfl hlost
    · rw [op.settled?_of_not_lost hlost]
      exact .answered rfl hlost
  · rw [if_neg (by cases state <;> simp [ConnectionState.isOpen] at hopen ⊢)]
    exact .without hopen

/-- **The web stands in for the stream**, in a call to which the stream would answer this, and the web that. -/
structure FallsBack (op : Operation) (e : Endpoints) (ms : Nat) (state : ConnectionState)
    (answer : Outcome Json) (reply : Except WebFault WebReply) (call : Call) : Prop where
  streamed_length : call.streamed.length = if state = .open then 1 else 0
  fetched_length : call.fetched.length ≤ 1
  /-- Both requests ask for the operation that is called. -/
  streamed_asks : ∀ r ∈ call.streamed, ofStream? r.1 r.2 = some op
  fetched_asks : ∀ r ∈ call.fetched, r.Asks e op
  /-- The web is asked exactly if the stream is not open or loses the request. -/
  fetched_iff : call.fetched ≠ [] ↔ state ≠ .open ∨ LostOnTheWay answer
  /-- What the web gives is final, and so is what the stream gives if the web is not asked. -/
  outcome_eq : call.outcome = if call.fetched = [] then op.verdict answer else op.fetched e ms reply
  /-- No response sends a call on to the web. -/
  response : state = .open → ∀ r : Response, answer = r.outcome → call.fetched = []
  /-- A request that returned in a run of the table is repeated exactly if no response was taken for it. -/
  returned : state = .open → ∀ connection es n,
    .returned n answer ∈ (Exchange.start connection).trace es →
      (call.fetched ≠ [] ↔ ∀ r, .answered r true ∈ (Exchange.start connection).trace es → r.id ≠ n)

/-- **Every call falls back to the web as it should.** -/
theorem call_fallsBack (op : Operation) (e : Endpoints) (ms : Nat) (state : ConnectionState)
    (stream : RequestKind → Json → Outcome Json) (web : WebRequest → Except WebFault WebReply) :
    FallsBack op e ms state (stream op.kind op.data) (web (op.webRequest e))
      (op.call e ms state stream web) := by
  have hgoes := op.goes_call e ms state stream web
  generalize stream op.kind op.data = answer at hgoes ⊢
  generalize web (op.webRequest e) = reply at hgoes ⊢
  generalize op.call e ms state stream web = call at hgoes ⊢
  have hiff : call.fetched ≠ [] ↔ state ≠ .open ∨ LostOnTheWay answer := by
    cases hgoes with
    | without hclosed => simp [hclosed]
    | lost hopen hlost => simp [hlost]
    | answered hopen hkept => simp [hopen, hkept]
  have hopen_iff (hopen : state = .open) : call.fetched ≠ [] ↔ LostOnTheWay answer := by
    rw [hiff, hopen]
    exact or_iff_right fun hne => hne rfl
  refine ⟨?_, ?_, ?_, ?_, hiff, ?_, ?_, ?_⟩
  · cases hgoes with
    | without hclosed => simp [hclosed]
    | lost hopen | answered hopen => simp [hopen]
  · cases hgoes <;> simp
  · intro r hr
    cases hgoes with
    | without hclosed => exact absurd hr List.not_mem_nil
    | lost | answered =>
      rw [List.mem_singleton.mp hr]
      exact op.ofStream?_data
  · intro r hr
    cases hgoes with
    | answered => exact absurd hr List.not_mem_nil
    | without | lost =>
      rw [List.mem_singleton.mp hr]
      exact asks_webRequest e op
  · cases hgoes <;> rfl
  · intro hopen r hr
    apply Decidable.byContradiction
    intro hfetched
    have hlost := (hopen_iff hopen).mp hfetched
    rw [hr] at hlost
    exact r.not_lostOnTheWay hlost
  · intro hopen connection es n hreturned
    -- The account of a request is kept among the marks about it.
    have haccount := Exchange.accounted connection es n
    have hreturned' : .returned n answer ∈ ((Exchange.start connection).trace es).filter (·.isOf n) :=
      List.mem_filter.mpr ⟨hreturned, beq_self_eq_true n⟩
    rw [hopen_iff hopen, haccount.lost_iff hreturned']
    apply forall_congr'
    intro r
    rw [List.mem_filter, not_and]
    simp [Mark.isOf]

end Operation
end LiveLog
