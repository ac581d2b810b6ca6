import LiveLog.Net.Endpoints
import LiveLog.Net.Request

/-!
# Asking over the web

Every operation can also be asked for with a single web request. A reply is good by its status alone;
then its body is read as what the operation gives, straight from the text, where a member that is
written twice is a fault.
-/

namespace LiveLog

/-- How a web request asks. -/
inductive WebMethod where
  | get
  | delete
deriving DecidableEq, Repr

/-- **A web request.** -/
structure WebRequest where
  method : WebMethod
  url : String
  /-- What a message about a timeout names. -/
  context : String
deriving DecidableEq, Repr

/-- **A reply.** -/
structure WebReply where
  status : Nat
  contentType : Option String
  body : List UInt8
deriving DecidableEq, Repr

/-- Why there is no reply. -/
inductive WebFault where
  | timedOut
  | unreachable
deriving DecidableEq, Repr

/-- The fault as the caller of the request sees it, who waits so many milliseconds. -/
def WebFault.error (r : WebRequest) (ms : Nat) : WebFault → ClientError
  | .timedOut => .timeout ms r.context
  | .unreachable => .transport ("error sending request for url (" ++ r.url ++ ")")

/-! ## 1. Status -/

namespace WebStatus

/-- The reasons that stand for statuses. -/
def reasons : List (Nat × String) := [
  (100, "Continue"), (101, "Switching Protocols"), (102, "Processing"),
  (200, "OK"), (201, "Created"), (202, "Accepted"), (203, "Non Authoritative Information"),
  (204, "No Content"), (205, "Reset Content"), (206, "Partial Content"), (207, "Multi-Status"),
  (208, "Already Reported"), (226, "IM Used"),
  (300, "Multiple Choices"), (301, "Moved Permanently"), (302, "Found"), (303, "See Other"),
  (304, "Not Modified"), (305, "Use Proxy"), (307, "Temporary Redirect"), (308, "Permanent Redirect"),
  (400, "Bad Request"), (401, "Unauthorized"), (402, "Payment Required"), (403, "Forbidden"),
  (404, "Not Found"), (405, "Method Not Allowed"), (406, "Not Acceptable"),
  (407, "Proxy Authentication Required"), (408, "Request Timeout"), (409, "Conflict"), (410, "Gone"),
  (411, "Length Required"), (412, "Precondition Failed"), (413, "Payload Too Large"),
  (414, "URI Too Long"), (415, "Unsupported Media Type"), (416, "Range Not Satisfiable"),
  (417, "Expectation Failed"), (418, "I'm a teapot"), (421, "Misdirected Request"),
  (422, "Unprocessable Entity"), (423, "Locked"), (424, "Failed Dependency"), (425, "Too Early"),
  (426, "Upgrade Required"), (428, "Precondition Required"), (429, "Too Many Requests"),
  (431, "Request Header Fields Too Large"), (451, "Unavailable For Legal Reasons"),
  (500, "Internal Server Error"), (501, "Not Implemented"), (502, "Bad Gateway"),
  (503, "Service Unavailable"), (504, "Gateway Timeout"), (505, "HTTP Version Not Supported"),
  (506, "Variant Also Negotiates"), (507, "Insufficient Storage"), (508, "Loop Detected"),
  (510, "Not Extended"), (511, "Network Authentication Required")]

/-- Whether a status means success. -/
def isSuccess (status : Nat) : Bool := 200 ≤ status && status < 300

/-- What the caller is told about a status that does not mean success. -/
def fault (status : Nat) : ClientError :=
  .application ("HTTP " ++ toString status ++ ": " ++ (reasons.lookup status).getD "unknown status")

end WebStatus

/-! ## 2. Operations -/

namespace Operation

/-- **The web request for an operation.** -/
def webRequest (e : Endpoints) : Operation → WebRequest
  | .fetchLogs limit offset => ⟨.get, e.logs (some limit) (some offset) none, Endpoints.logsPath⟩
  | .fetchStats => ⟨.get, e.stats, Endpoints.statsPath⟩
  | .clearLogs => ⟨.delete, e.logs none none none, "clear_logs"⟩
  | .fetchLogsByLevel level => ⟨.get, e.logs none none (some level), Endpoints.logsPath⟩
  | .downloadLogs format => ⟨.get, e.download format, "download_logs"⟩

/-- Data in the body of a reply. -/
def readBody {α : Type} (shape : Shape) (ofJson : Json → Decoded α) (body : List UInt8) : Outcome α :=
  match (String.fromUTF8? (ByteArray.mk body.toArray)).bind (shape.read ofJson) with
  | some a => .ok a
  | none => .error (.parse "error decoding response body")

/-- **What a reply gives.** -/
def readReply (op : Operation) (r : WebReply) : Outcome Answer :=
  if WebStatus.isSuccess r.status then
    match op with
    | .fetchLogs .. => (readBody (.list Record.shape) Record.listOfJson r.body).map .logs
    | .fetchStats => (readBody Stats.shape Stats.ofJson r.body).map .stats
    | .clearLogs => .ok .cleared
    | .fetchLogsByLevel _ => (readBody (.list Record.shape) Record.listOfJson r.body).map .logs
    | .downloadLogs format =>
      .ok (.file { format, contentType := r.contentType.getD format.contentType, bytes := r.body })
  else .error (WebStatus.fault r.status)

/-- What asking over the web comes to, for a caller who waits so many milliseconds. -/
def fetched (op : Operation) (e : Endpoints) (ms : Nat) : Except WebFault WebReply → Outcome Answer
  | .ok reply => op.readReply reply
  | .error fault => .error (fault.error (op.webRequest e) ms)

end Operation
end LiveLog
