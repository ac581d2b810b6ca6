import LiveLog.Proofs.Correlator.Settlement
import LiveLog.Proofs.Json.Fields
import LiveLog.Proofs.Json.RoundTrip
import LiveLog.Proofs.Router.Grammar

/-!
# A request and its reply

Between a request and what its caller is told lie four things that have to agree: the text that is written,
the number that a server reads in it, the response that is read from the text of the reply, and the table
that connects the two by that number. This file walks the whole way.

The number travels as a value of a document and is never looked at in between, so a reply is described by
the value it carries (`Json.Replies`) and not by a number. What the reply says is an outcome
(`Json.Tells`); that the response read from it has the same outcome is where null data come in, which are read
as no data and given to the caller as null again. From there on the text is forgotten: a response settles
the request that waits under its number, and since nothing but its own caller takes an outcome away
(`Lane.after_settled`), the caller returns it whenever it runs.

Exchanges are only asked to be `Valid` here, which all are that a run leads to (`Valid.after`).
-/

namespace LiveLog

/-! ## 1. The request -/

namespace RequestFrame

theorem toJson_eq (f : RequestFrame) : f.toJson =
    .object [("data", f.data), ("requestId", Json.natural f.id), ("requestType", .string f.kind.name),
      ("timestamp", .string f.timestamp), ("type", .string "request")] := by
  cbv

theorem plain_members {f : RequestFrame} {depth : Nat} (hid : f.id ≤ maxWord) (hdata : f.data.Plain depth) :
    ∀ m ∈ f.members, m.2.Plain depth := by
  simp only [members, List.forall_mem_cons]
  exact ⟨.string _, .string _, .natural hid, hdata, .string _, by simp⟩

/-- **The text of a request says what the request is.** -/
theorem parse_text {f : RequestFrame} (hid : f.id ≤ maxWord) {depth : Nat} (hdepth : depth < maxDepth)
    (hdata : f.data.Plain depth) : Json.parse f.text = some f.toJson :=
  Json.parse_memberChars hdepth (plain_members hid hdata)

end RequestFrame

/-! ## 2. The reply -/

namespace Json

/-- **What a document tells a caller**: data, or why there are none. -/
inductive Tells (reply : Json) : Outcome Json → Prop
  | data {d : Json} (hsuccess : reply.get? "success" = some (.bool true)) (hdata : reply.get? "data" = some d)
      (herror : reply.get? "error" = none) : Tells reply (.ok d)
  | error {e : String} (hsuccess : reply.get? "success" = some (.bool false))
      (herror : reply.get? "error" = some (.string e)) : Tells reply (.error (.application e))

/-- **A document that replies under a number.** The number is a value here, as a server finds it in the
    text of a request. -/
structure Replies (number reply : Json) (o : Outcome Json) : Prop where
  type : reply.get? "type" = some (.string "response")
  requestId : reply.get? "requestId" = some number
  tells : reply.Tells o

/-- Whatever the data of a response are, they are read, and null data as none. -/
theorem holdsOptional_ok (member : Option Json) :
    ∃ d, HoldsOptional .ok member d ∧ d.getD .null = member.getD .null := by
  cases member with
  | none => exact ⟨none, .inl rfl, rfl⟩
  | some x =>
    by_cases hnull : x = .null
    · subst hnull
      exact ⟨none, .inr rfl, rfl⟩
    · exact ⟨some x, ⟨x, rfl, hnull, rfl⟩, rfl⟩

/-- The members of a reply are read as a response that says the same. -/
theorem exists_response {ms : List (String × Json)} {n : Nat} {o : Outcome Json} (hn : n ≤ maxWord)
    (hid : ms.lookup "requestId" = some (natural n)) (htells : (Json.object ms).Tells o) :
    ∃ r, Response.ofJson (.object ms) = .ok r ∧ r.id = n ∧ r.outcome = o := by
  have hword : Holds asWord64 (ms.lookup "requestId") (some n) :=
    ⟨_, hid, asWord64_eq_ok_iff.mpr ⟨rfl, hn⟩⟩
  obtain ⟨d, hdata, hd⟩ := holdsOptional_ok (ms.lookup "data")
  cases htells with
  | @data x hsuccess hx herror =>
    have hx : ms.lookup "data" = some x := hx
    rw [hx, Option.getD_some] at hd
    refine ⟨⟨n, true, d, none⟩, ?_, rfl, ?_⟩
    · exact Response.ofJson_object_eq_ok_iff.mpr ⟨hword, ⟨_, hsuccess, rfl⟩, hdata, .inl herror⟩
    · rw [Response.outcome, if_pos rfl, hd]
  | @error e hsuccess herror =>
    refine ⟨⟨n, false, d, some e⟩, ?_, rfl, rfl⟩
    exact Response.ofJson_object_eq_ok_iff.mpr
      ⟨hword, ⟨_, hsuccess, rfl⟩, hdata, ⟨_, herror, by simp, rfl⟩⟩

end Json

namespace Frame

/-- **A reply is read as a response that says the same.** -/
theorem read?_reply {text : String} {reply : Json} {n : Nat} {o : Outcome Json} (hn : n ≤ maxWord)
    (hparse : Json.parse text = some reply) (h : Json.Replies (Json.natural n) reply o) :
    ∃ r, read? text = some (.response r) ∧ r.id = n ∧ r.outcome = o := by
  cases reply with
  | object ms =>
    have hlookup : ∀ key ≠ "type", (ms.filter fun m => m.1 != "type").lookup key = ms.lookup key :=
      fun key hkey => Json.lookup_filter_of_pos (p := (· != "type")) (bne_iff_ne.mpr hkey) ms
    have htells : (Json.object (ms.filter fun m => m.1 != "type")).Tells o := by
      cases h.tells with
      | data hsuccess hdata herror =>
        exact .data ((hlookup "success" (by decide)).trans hsuccess)
          ((hlookup "data" (by decide)).trans hdata) ((hlookup "error" (by decide)).trans herror)
      | error hsuccess herror =>
        exact .error ((hlookup "success" (by decide)).trans hsuccess)
          ((hlookup "error" (by decide)).trans herror)
    obtain ⟨r, hr, hid, ho⟩ :=
      Json.exists_response hn ((hlookup "requestId" (by decide)).trans h.requestId) htells
    refine ⟨r, ?_, hid, ho⟩
    rw [read?_object hparse h.type, ofPayload, hr]
    rfl
  | _ => exact absurd h.type (by simp [Json.get?])

end Frame

/-! ## 3. The loop -/

/-- Whether an event makes a caller run or go. -/
def Event.isTurn (n : Nat) : Event → Bool
  | .wake id => id == n
  | .timeUp id => id == n
  | .drop id => id == n
  | _ => false

/-- An outcome that is there stays there until its caller runs. -/
theorem Lane.step_settled {n : Nat} {l : Lane} {caller : Caller} {o : Outcome Json}
    (hs : l.standing = .settled caller o) (hlt : n < l.nextId) {e : Event} (he : e.isTurn n = false) :
    (l.step n e).1.standing = .settled caller o ∧ n < (l.step n e).1.nextId := by
  cases e with
  | connection state => exact ⟨hs, hlt⟩
  | request kind data timestamp takes limit =>
    rw [Lane.step]
    have hn : (l.nextId == n) = false := beq_false_of_ne (by omega)
    rw [hn, Bool.and_false]
    cases l.connection.isOpen with
    | true => exact ⟨hs, Nat.lt_succ_of_lt hlt⟩
    | false => exact ⟨hs, hlt⟩
  | response r =>
    rw [Lane.step, Lane.answer, hs]
    split <;> exact ⟨hs, hlt⟩
  | wake id | timeUp id | drop id =>
    have hid : (id == n) = false := he
    rw [Lane.step, hid]
    exact ⟨hs, hlt⟩

theorem Lane.after_settled {n : Nat} {l : Lane} {caller : Caller} {o : Outcome Json}
    (hs : l.standing = .settled caller o) (hlt : n < l.nextId) {es : List Event}
    (hes : ∀ e ∈ es, e.isTurn n = false) : (l.after n es).standing = .settled caller o := by
  induction es generalizing l with
  | nil => exact hs
  | cons e rest ih =>
    obtain ⟨hs', hlt'⟩ := Lane.step_settled hs hlt (hes e List.mem_cons_self)
    exact ih hs' hlt' fun e' he' => hes e' (List.mem_cons_of_mem _ he')

namespace Exchange

variable {σ : Type} [Sink σ]

/-- The exchange after a text has been routed. -/
def routed (x : Exchange) (text : String) (s : σ) : Exchange :=
  { x with correlator := (Frame.route text x.correlator s).2.1 }

/-- **A text settles a request with an outcome**: routing says so, the sink is not touched, and whatever
    happens afterwards, the next time the caller runs it returns the outcome, also if that is by its timer. -/
structure Settles (x : Exchange) (s : σ) (text : String) (n : Nat) (o : Outcome Json) : Prop where
  answer : (Frame.route text x.correlator s).1 = .resolved n
  sink : (Frame.route text x.correlator s).2.2 = s
  returns : ∀ later : List Event, (∀ e ∈ later, e.isTurn n = false) →
    (((x.routed text s).after later).step (.wake n)).2 = some (.returned n o) ∧
    (((x.routed text s).after later).step (.timeUp n)).2 = some (.returned n o)

theorem waiting_of_isPending {x : Exchange} (hx : Valid x) {n : Nat}
    (hpending : x.correlator.isPending n = true) :
    ∃ caller, x.standing n = .waiting caller ∧ n < x.correlator.nextId := by
  have hstanding := isPending_eq_standing hx n
  rw [hpending] at hstanding
  cases hwaiting : x.standing n with
  | absent | settled caller o =>
    rw [hwaiting] at hstanding
    exact absurd hstanding (by simp)
  | waiting caller =>
    have hcaller := (caller?_of_waiting hwaiting).1
    have hlt := hx.caller_lt caller (List.mem_of_find?_eq_some hcaller)
    rw [id_of_caller? hcaller] at hlt
    exact ⟨caller, rfl, hlt⟩

theorem lane_response {x : Exchange} (hx : Valid x) {r : Response} {caller : Caller}
    (hs : x.standing r.id = .waiting caller) :
    (x.step (.response r)).1.lane r.id = { x.lane r.id with standing := .settled caller r.outcome } := by
  have hstep : (x.step (.response r)).1.lane r.id = ((x.lane r.id).answer r).1 :=
    congrArg Prod.fst (seen_response hx r)
  have hlane : (x.lane r.id).standing = .waiting caller := hs
  rw [hstep, Lane.answer, hlane]

theorem settles_of_response {x : Exchange} (hx : Valid x) {text : String} {r : Response}
    (hread : Frame.read? text = some (.response r)) (hpending : x.correlator.isPending r.id = true) (s : σ) :
    Settles x s text r.id r.outcome := by
  have hlands := Frame.lands_route text x.correlator s
  have hrouted : x.routed text s = (x.step (.response r)).1 := by
    rw [routed, hlands.table_response hread]
    rfl
  refine ⟨?_, ?_, ?_⟩
  · rw [hlands.answer_response hread, if_pos hpending]
  · rw [hlands.sink_eq, hread]
    rfl
  · intro later hlater
    obtain ⟨caller, hwaiting, hlt⟩ := waiting_of_isPending hx hpending
    have hrun := (lane_run (hx.step (.response r)) r.id later).1
    rw [lane_response hx hwaiting] at hrun
    have hsettled : ((x.step (.response r)).1.after later).standing r.id = .settled caller r.outcome :=
      (congrArg Lane.standing hrun).trans (Lane.after_settled rfl hlt hlater)
    rw [hrouted]
    exact step_settled hsettled

/-! ## 4. Both ways together -/

/-- The text of a reply with data. -/
def successText (number data : Json) : String :=
  String.ofList ('\x7b' :: Json.memberChars [("type", .string "response"), ("requestId", number),
    ("success", .bool true), ("data", data)])

/-- The text of a reply that reports a failure. -/
def failureText (number : Json) (error : String) : String :=
  String.ofList ('\x7b' :: Json.memberChars [("type", .string "response"), ("requestId", number),
    ("success", .bool false), ("error", .string error)])

theorem settles_of_reply {x : Exchange} (hx : Valid x) {text : String} {reply : Json} {n : Nat}
    {o : Outcome Json} (hn : n ≤ maxWord) (hparse : Json.parse text = some reply)
    (h : Json.Replies (Json.natural n) reply o) (hpending : x.correlator.isPending n = true) (s : σ) : Settles x s text n o := by
  obtain ⟨r, hread, rfl, rfl⟩ := Frame.read?_reply hn hparse h
  exact settles_of_response hx hread hpending s

theorem replies_successText {depth : Nat} (hdepth : depth < maxDepth) {number d : Json}
    (hnumber : number.Plain depth) (hd : d.Plain depth) :
    ∃ reply, Json.parse (successText number d) = some reply ∧ Json.Replies number reply (.ok d) := by
  refine ⟨_, Json.parse_memberChars hdepth ?_, ?_⟩
  · simp only [List.forall_mem_cons]
    exact ⟨.string _, hnumber, .bool _, hd, by simp⟩
  · refine ⟨Json.get?_ofMembers _ _, Json.get?_ofMembers _ _, .data ?_ ?_ ?_⟩
    all_goals exact Json.get?_ofMembers _ _

theorem replies_failureText {depth : Nat} (hdepth : depth < maxDepth) {number : Json}
    (hnumber : number.Plain depth) (e : String) :
    ∃ reply, Json.parse (failureText number e) = some reply ∧
      Json.Replies number reply (.error (.application e)) := by
  refine ⟨_, Json.parse_memberChars hdepth ?_, ?_⟩
  · simp only [List.forall_mem_cons]
    exact ⟨.string _, hnumber, .bool _, .string _, by simp⟩
  · refine ⟨Json.get?_ofMembers _ _, Json.get?_ofMembers _ _, .error ?_ ?_⟩
    all_goals exact Json.get?_ofMembers _ _

/-- **A request and its reply close the loop.** The text of a request with plain data is an object with its
    five members and no others, the number exact over all words. And wherever a request of that number is
    pending, it is settled by every text that replies under the number found in the text of the request: by
    data it returns those data, null among them, and by an error it returns that error. The compact text of
    a reply with plain data is such a text, and so is that of a reply with any error. -/
theorem request_and_reply_close_the_loop (f : RequestFrame) (hid : f.id ≤ maxWord) {depth : Nat}
    (hdepth : depth < maxDepth) (hdata : f.data.Plain depth) :
    Json.parse f.text = some (.object [("data", f.data), ("requestId", Json.natural f.id),
      ("requestType", .string f.kind.name), ("timestamp", .string f.timestamp),
      ("type", .string "request")]) ∧
    ∀ request number, Json.parse f.text = some request → request.get? "requestId" = some number →
      ∀ (x : Exchange) (s : σ), Valid x → x.correlator.isPending f.id = true →
        (∀ text reply o, Json.parse text = some reply → Json.Replies number reply o →
          Settles x s text f.id o) ∧
        (∀ (d : Json) (deep : Nat), deep < maxDepth → d.Plain deep →
          Settles x s (successText number d) f.id (.ok d)) ∧
        (∀ e : String, Settles x s (failureText number e) f.id (.error (.application e))) := by
  have hparse := RequestFrame.parse_text hid hdepth hdata
  rw [RequestFrame.toJson_eq] at hparse
  refine ⟨hparse, ?_⟩
  intro request number hrequest hnumber x s hx hpending
  obtain rfl := Option.some.inj (hparse.symm.trans hrequest)
  obtain rfl : Json.natural f.id = number := Option.some.inj hnumber
  have hplain : ∀ {deep : Nat}, (Json.natural f.id).Plain deep := .natural hid
  refine ⟨?_, ?_, ?_⟩
  · intro text reply o htext hreply
    exact settles_of_reply hx hid htext hreply hpending s
  · intro d deep hdeep hd
    obtain ⟨reply, htext, hreply⟩ := replies_successText hdeep hplain hd
    exact settles_of_reply hx hid htext hreply hpending s
  · intro e
    obtain ⟨reply, htext, hreply⟩ := replies_failureText hdepth hplain e
    exact settles_of_reply hx hid htext hreply hpending s

/-- A request with the last number there is, whose data have members with the names of a frame's members. -/
def lastRequest : RequestFrame where
  kind := .getStats
  id := maxWord
  data := .object [("data", .null), ("requestId", .number (.negative 1)), ("type", .array [.string "\n"])]
  timestamp := "now"

/-- An exchange in which that request is pending. -/
def lastPending : Exchange :=
  (step { correlator := { nextId := maxWord }, connection := .open }
    (.request lastRequest.kind lastRequest.data lastRequest.timestamp true 5)).1

/-- The last request returns null where the reply says null, and the server's reason where it says that. -/
theorem last_request_closes_the_loop :
    Settles lastPending (LogView.new 5) (successText (Json.natural maxWord) .null) maxWord (.ok .null) ∧
    Settles lastPending (LogView.new 5) (failureText (Json.natural maxWord) "denied") maxWord
      (.error (.application "denied")) := by
  have hdata : lastRequest.data.Plain 2 := by
    refine .object (by decide) ?_
    simp only [List.forall_mem_cons]
    refine ⟨.null, .negative (by decide) (by decide), .array ?_, by simp⟩
    simp only [List.forall_mem_cons]
    exact ⟨.string _, by simp⟩
  have hempty : Valid { correlator := { nextId := maxWord }, connection := .open } :=
    ⟨fun _ hcaller => absurd hcaller List.not_mem_nil, fun _ => rfl, fun _ _ => rfl⟩
  obtain ⟨hparse, hloop⟩ :=
    @request_and_reply_close_the_loop LogView _ lastRequest (Nat.le_refl _) 2 (by decide) hdata
  obtain ⟨-, hsuccess, hfailure⟩ :=
    hloop _ (Json.natural maxWord) hparse rfl lastPending (LogView.new 5) (hempty.step _) (by rfl)
  exact ⟨hsuccess .null 0 (by decide) .null, hfailure "denied"⟩

end Exchange
end LiveLog
