/-!
# States of the connection

What a connection says about itself. It starts out connecting, and gives up for good only in `failed`.
-/

namespace LiveLog

/-- **The state of the connection.** -/
inductive ConnectionState where
  | connecting
  | open
  | closed
  /-- The last attempt or session ended with a fault. -/
  | errored
  /-- No attempt is left. -/
  | failed
deriving DecidableEq, Repr, Inhabited

namespace ConnectionState

/-- All states. -/
def all : List ConnectionState := [.connecting, .open, .closed, .errored, .failed]

/-- The name of a state. -/
def name : ConnectionState → String
  | .connecting => "Connecting"
  | .open => "Open"
  | .closed => "Closed"
  | .errored => "Errored"
  | .failed => "Failed"

/-- What a viewer reads about a state. -/
def label : ConnectionState → String
  | .connecting => "Connecting..."
  | .open => "Connected"
  | .closed => "Disconnected"
  | .errored => "Connection error"
  | .failed => "Connection failed"

/-- Whether frames can be sent. -/
def isOpen (s : ConnectionState) : Bool := s == .open

/-- Whether no other state can follow by itself. -/
def isTerminal (s : ConnectionState) : Bool := s == .failed

end ConnectionState
end LiveLog
