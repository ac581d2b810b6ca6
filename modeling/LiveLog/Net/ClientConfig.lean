import LiveLog.Net.Backoff

/-!
# What a client needs to know

The address of a server, how to reconnect to it, and how long to wait for an answer.
-/

namespace LiveLog

/-- **The configuration of a client.** -/
structure ClientConfig where
  server : String := "http://127.0.0.1:8080"
  reconnect : BackoffConfig := {}
  requestTimeoutMs : Nat := 10000

namespace ClientConfig

/-- The name that messages about a malformed configuration use. -/
def shapeName : String := "ClientConfig"

/-- **A configuration from a document**; absent members take their defaults. -/
def ofJson : Json → Decoded ClientConfig
  | .object ms => do
    let reconnect ← Json.member? ms "reconnect" BackoffConfig.ofJson
    let timeout ← Json.member? ms "request_timeout_ms" Json.asWord64
    let server ← Json.member? ms "server" Json.asText
    pure (make server reconnect timeout)
  | .array xs => do
    let server ← Json.element? xs 0 Json.asText
    let reconnect ← Json.element? xs 1 BackoffConfig.ofJson
    let timeout ← Json.element? xs 2 Json.asWord64
    Json.noMoreThan xs 3
    pure (make server reconnect timeout)
  | x => x.wrongType (.structure shapeName)
where
  /-- The configuration of the given members, the rest by default. -/
  make (server : Option String) (reconnect : Option BackoffConfig) (timeout : Option Nat) :
      ClientConfig :=
    let d : ClientConfig := {}
    { server := server.getD d.server, reconnect := reconnect.getD d.reconnect,
      requestTimeoutMs := timeout.getD d.requestTimeoutMs }

/-- The members of a configuration, for reading one straight from text. -/
def shape : Shape :=
  .record [("server", .whole), ("reconnect", BackoffConfig.shape), ("request_timeout_ms", .whole)]

end ClientConfig
end LiveLog
