import LiveLog.Log.Download
import LiveLog.Net.ClientError
import LiveLog.Url.Parser

/-!
# Endpoints

The addresses that a server is asked at. They are all derived from the address of the server: its user,
host and port are kept, the schemes for pages and for streams are paired (`http` with `ws`, `https` with
`wss`), and the path is replaced. A query of the server address is dropped; its fragment stays.
-/

namespace LiveLog

/-- **The endpoints of a server.** -/
structure Endpoints where
  /-- Whether the secure schemes are used. -/
  secure : Bool
  server : Url.Server
  fragment : Option String
deriving DecidableEq, Repr

namespace Endpoints

/-- The endpoints of an address that has been read. -/
def ofAddress : Url.Address → Except String Endpoints
  | .server scheme server fragment =>
    .ok { secure := scheme == .https || scheme == .wss, server, fragment }
  | .other scheme => .error ("unsupported scheme " ++ scheme)

/-- **The endpoints of a server address.** -/
def ofServer (address : String) : Outcome Endpoints :=
  match Url.parse address with
  | .error fault => .error (.invalidUrl address fault.message)
  | .ok a => (ofAddress a).mapError (.invalidUrl address)

/-- The text of an address of the server. -/
def url (e : Endpoints) (scheme : Url.Scheme) (path : String) (query : List (String × String)) : String :=
  scheme.name ++ "://" ++ (if e.server.userinfo.isEmpty then "" else e.server.userinfo ++ "@") ++
    e.server.host.text ++ (e.server.port.map fun p => ":" ++ toString p).getD "" ++ path ++
    (if query.isEmpty then "" else "?" ++ Url.Form.encode query) ++
    (e.fragment.map fun f => "#" ++ f).getD ""

/-- The scheme for pages. -/
def pageScheme (e : Endpoints) : Url.Scheme := if e.secure then .https else .http

/-- The scheme for streams. -/
def streamScheme (e : Endpoints) : Url.Scheme := if e.secure then .wss else .ws

/-- The root of the pages. -/
def page (e : Endpoints) : String := e.url e.pageScheme "/" []

/-- The stream of frames. -/
def stream (e : Endpoints) : String := e.url e.streamScheme "/ws" []

/-- The path of the log. -/
def logsPath : String := "/api/logs"

/-- The path of the statistics. -/
def statsPath : String := "/api/stats"

/-- The path of log files. -/
def downloadPath : String := "/api/download-log"

/-- **The log**, from some place on, up to a number of records, or of one level. -/
def logs (e : Endpoints) (limit offset : Option Nat) (level : Option String) : String :=
  e.url e.pageScheme logsPath
    ((limit.map fun n => ("limit", toString n)).toList ++
      (offset.map fun n => ("offset", toString n)).toList ++ (level.map fun l => ("level", l)).toList)

/-- The statistics. -/
def stats (e : Endpoints) : String := e.url e.pageScheme statsPath []

/-- The log as a file. -/
def download (e : Endpoints) (format : LogFormat) : String :=
  e.url e.pageScheme downloadPath [("type", format.name)]

end Endpoints
end LiveLog
