import LiveLog.Json.Decode
import LiveLog.Json.Writer
import LiveLog.Log.Download
import LiveLog.Log.Record
import LiveLog.Log.Stats

/-!
# Operations and requests

The operations a server offers, the data each of them sends, and the frame that carries a request over
the stream.
-/

namespace LiveLog

/-- The kinds of request. -/
inductive RequestKind where
  | getLogs
  | getStats
  | clearLogs
  | getLogsByLevel
  | downloadLogs
deriving DecidableEq, Repr

namespace RequestKind

/-- The name of a kind on the wire. -/
def name : RequestKind → String
  | .getLogs => "get_logs"
  | .getStats => "get_stats"
  | .clearLogs => "clear_logs"
  | .getLogsByLevel => "get_logs_by_level"
  | .downloadLogs => "download_logs"

/-- All kinds, in the order in which messages list them. -/
def all : List RequestKind := [.getLogs, .getStats, .clearLogs, .getLogsByLevel, .downloadLogs]

/-- The written kinds. -/
def choices : List (String × RequestKind) := all.map fun k => (k.name, k)

/-- A kind from a document. -/
def ofJson : Json → Decoded RequestKind := Json.asChoice choices

end RequestKind

/-- **An operation with its arguments.** -/
inductive Operation where
  | fetchLogs (limit offset : Nat)
  | fetchStats
  | clearLogs
  | fetchLogsByLevel (level : String)
  | downloadLogs (format : LogFormat)
deriving DecidableEq, Repr

/-- What an operation gives. -/
inductive Answer where
  | logs (records : List Record)
  | stats (snapshot : Stats)
  | cleared
  | file (download : Download)
deriving DecidableEq, Repr

namespace Operation

/-- The kind of request that asks for an operation. -/
def kind : Operation → RequestKind
  | .fetchLogs .. => .getLogs
  | .fetchStats => .getStats
  | .clearLogs => .clearLogs
  | .fetchLogsByLevel _ => .getLogsByLevel
  | .downloadLogs _ => .downloadLogs

/-- The data of the request. -/
def data : Operation → Json
  | .fetchLogs limit offset =>
    Json.ofMembers [("limit", Json.natural limit), ("offset", Json.natural offset)]
  | .fetchStats => .object []
  | .clearLogs => .object []
  | .fetchLogsByLevel level => .object [("level", .string level)]
  | .downloadLogs format => .object [("format", .string format.name)]

/-- **What the data of a successful response gives.** Whatever answers a clear is enough. -/
def decode : Operation → Json → Decoded Answer
  | .fetchLogs .., x => (Record.listOfJson x).map .logs
  | .fetchStats, x => (Stats.ofJson x).map .stats
  | .clearLogs, _ => .ok .cleared
  | .fetchLogsByLevel _, x => (Record.listOfJson x).map .logs
  | .downloadLogs format, x => (DownloadPayload.ofJson x).map fun p =>
      .file { format, contentType := p.contentType.getD format.contentType,
              bytes := p.content.toUTF8.toList }

end Operation

/-- **A request frame.** -/
structure RequestFrame where
  kind : RequestKind
  id : Nat
  data : Json
  /-- The time of sending, as text. -/
  timestamp : String
deriving Repr

namespace RequestFrame

/-- The members of a request frame, in the order in which they are written. -/
def members (f : RequestFrame) : List (String × Json) :=
  [("type", .string "request"), ("requestType", .string f.kind.name),
    ("requestId", Json.natural f.id), ("data", f.data), ("timestamp", .string f.timestamp)]

/-- The document form of a request frame. -/
def toJson (f : RequestFrame) : Json := Json.ofMembers f.members

/-- **The text of a request frame.** -/
def text (f : RequestFrame) : String := String.ofList ('\x7b' :: Json.memberChars f.members)

end RequestFrame
end LiveLog
