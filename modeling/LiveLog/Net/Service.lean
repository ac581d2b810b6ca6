import LiveLog.Net.ConnectionState
import LiveLog.Net.Web

/-!
# Calls

An operation is called without regard to the ways that lead to the server. The stream is tried first if
it is open. If it is not, or if the way itself failed, the call is made once more over the web; what
comes of that is final. A response on the stream is final too, also one that reports a failure and one
that cannot be read: the server has answered.
-/

namespace LiveLog

/-- **What a call did, and what came of it.** -/
structure Call where
  /-- The requests that went out on the stream. -/
  streamed : List (RequestKind × Json)
  /-- The requests that went out over the web. -/
  fetched : List WebRequest
  outcome : Outcome Answer

namespace Operation

/-- What the outcome of the stream decides, or nothing if the web has to be asked. -/
def settled? (op : Operation) : Outcome Json → Option (Outcome Answer)
  | .ok data => some ((op.decode data).mapError fun e => .parse e.message)
  | .error e => if e.isTransport then none else some (.error e)

/-- **A call**: with the state of the connection as it begins, what the stream would come to, and what the
    web would come to. -/
def call (op : Operation) (e : Endpoints) (ms : Nat) (state : ConnectionState)
    (stream : RequestKind → Json → Outcome Json) (web : WebRequest → Except WebFault WebReply) : Call :=
  let viaWeb (streamed : List (RequestKind × Json)) : Call :=
    let request := op.webRequest e
    { streamed, fetched := [request], outcome := op.fetched e ms (web request) }
  if state.isOpen then
    match op.settled? (stream op.kind op.data) with
    | some outcome => { streamed := [(op.kind, op.data)], fetched := [], outcome }
    | none => viaWeb [(op.kind, op.data)]
  else viaWeb []

end Operation
end LiveLog
