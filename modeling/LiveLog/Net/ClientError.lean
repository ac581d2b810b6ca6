/-!
# Faults of the client

Everything that can go wrong between the viewer and a server, whichever way a call went. What counts for
the caller is whether another way might still succeed: a fault of the way itself (`isTransport`) says
nothing about the request, while a reply, even a bad one, is final.
-/

namespace LiveLog

/-- **Why a call failed.** -/
inductive ClientError where
  /-- The stream is not open. -/
  | notConnected
  /-- No reply in time. -/
  | timeout (ms : Nat) (context : String)
  /-- The server reports a failure. -/
  | application (text : String)
  /-- A reply cannot be read. -/
  | parse (text : String)
  /-- The way to the server failed. -/
  | transport (text : String)
  /-- The server address cannot be used. -/
  | invalidUrl (url reason : String)
deriving DecidableEq, Repr

namespace ClientError

/-- The wording of a fault. -/
def message : ClientError → String
  | .notConnected => "not connected"
  | .timeout ms context => "timed out after " ++ toString ms ++ "ms: " ++ context
  | .application text => "server error: " ++ text
  | .parse text => "parse error: " ++ text
  | .transport text => "transport error: " ++ text
  | .invalidUrl url reason => "invalid server url " ++ url ++ ": " ++ reason

/-- Whether another way to the server might succeed where this one failed. -/
def isTransport : ClientError → Bool
  | .notConnected => true
  | .timeout .. => true
  | .transport _ => true
  | _ => false

end ClientError

/-- The outcome of a call. -/
abbrev Outcome (α : Type) := Except ClientError α

end LiveLog
