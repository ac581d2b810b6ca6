import LiveLog.Net.ClientError
import LiveLog.Net.Request

/-!
# Frames from the server

A frame is a document that says by its `type` what it is: a pushed log record, a pushed statistics
snapshot, or the response to a request. Other types are nothing to this client, but no fault.

A frame is an object with its type beside the members of its payload, or an array with the type first
and the array form of the payload after it.
-/

namespace LiveLog

/-- The response to a request. -/
structure Response where
  id : Nat
  success : Bool
  data : Option Json
  error : Option String
deriving DecidableEq, Repr

namespace Response

/-- The name that messages about a malformed response use. -/
def shapeName : String := "ResponseFrame"

/-- A response from a document. Data that is null is no data. -/
def ofJson : Json → Decoded Response
  | .object ms => do
    let data ← Json.member? ms "data" (Json.asOptional .ok)
    let error ← Json.member? ms "error" (Json.asOptional Json.asText)
    let id ← Json.member? ms "requestId" Json.asWord64
    let success ← Json.member? ms "success" Json.asBool
    let id ← Json.required "requestId" id
    let success ← Json.required "success" success
    pure { id, success, data := data.join, error := error.join }
  | .array xs => do
    let id ← Json.requiredElement shapeName 4 0 (← Json.element? xs 0 Json.asWord64)
    let success ← Json.requiredElement shapeName 4 1 (← Json.element? xs 1 Json.asBool)
    let data ← Json.element? xs 2 (Json.asOptional .ok)
    let error ← Json.element? xs 3 (Json.asOptional Json.asText)
    Json.noMoreThan xs 4
    pure { id, success, data := data.join, error := error.join }
  | x => x.wrongType (.structure shapeName)

/-- The members of a response, for reading one straight from text. -/
def shape : Shape :=
  .record [("requestId", .whole), ("success", .whole), ("data", .whole), ("error", .whole)]

/-- **What the caller of the request is told**: the data, or the server's reason for failing. -/
def outcome (r : Response) : Outcome Json :=
  if r.success then .ok (r.data.getD .null)
  else .error (.application (r.error.getD "request failed"))

end Response

/-- **A frame from the server.** -/
inductive Frame where
  | log (record : Record)
  | stats (snapshot : Stats)
  | response (response : Response)
  /-- A frame of a type this client does not handle. -/
  | other
deriving DecidableEq, Repr

namespace Frame

/-- The frame of a type and the document of its payload. -/
def ofPayload (type : String) (payload : Json) : Decoded Frame :=
  match type with
  | "log_update" => (Record.ofJson payload).map .log
  | "stats_update" => (Stats.ofJson payload).map .stats
  | "response" => (Response.ofJson payload).map .response
  | _ =>
    match payload with
    | .array (x :: xs) => .error (.tooLong (x :: xs).length)
    | _ => .ok .other

/-- **A frame from a document.** -/
def ofJson : Json → Decoded Frame
  | .object ms => do
    let type ← Json.required "type" (← Json.member? ms "type" Json.asText)
    ofPayload type (.object (ms.filter fun m => m.1 != "type"))
  | .array [] => .error (.missingField "type")
  | .array (x :: xs) => do
    let type ← x.asText
    ofPayload type (.array xs)
  | x => x.wrongType (.structure "InboundFrame")

/-- The type that an object names. -/
def typeOf (x : Json) : Option String := (x.get? "type").bind Json.text?

end Frame
end LiveLog
