import LiveLog.Net.Correlator
import LiveLog.View.Buffer

/-!
# Routing frames

Where a frame from the server goes: responses to the table of pending requests, pushed records and
snapshots to a sink. A frame that cannot be read, or is of a type this client does not handle, goes
nowhere. Routing never fails.
-/

namespace LiveLog

/-- Something that takes in what a server pushes. -/
class Sink (σ : Type) where
  takeLog : σ → Record → σ
  takeStats : σ → Stats → σ

instance : Sink LogView where
  takeLog := LogView.ingest
  takeStats := LogView.ingestStats

/-- **What became of a frame.** -/
inductive Routed where
  /-- It settled a request. -/
  | resolved (id : Nat)
  /-- A response that nobody waits for. -/
  | unmatched (id : Nat)
  | log
  | stats
  /-- A frame of another type; an object names it. -/
  | ignored (type : Option String)
  | malformed
deriving DecidableEq, Repr

/-- Whether the sink took something in. -/
def Routed.touches : Routed → Bool
  | .log => true
  | .stats => true
  | _ => false

namespace Frame

/-- A frame that has been read goes where it belongs. -/
def dispatch {σ : Type} [Sink σ] (type : Option String) (c : Correlator) (s : σ) :
    Frame → Routed × Correlator × σ
  | .response r =>
    match c.resolve r with
    | (true, c) => (.resolved r.id, c, s)
    | (false, c) => (.unmatched r.id, c, s)
  | .log r => (.log, c, Sink.takeLog s r)
  | .stats x => (.stats, c, Sink.takeStats s x)
  | .other => (.ignored type, c, s)

/-- **Routes the text of a frame.** -/
def route {σ : Type} [Sink σ] (text : String) (c : Correlator) (s : σ) : Routed × Correlator × σ :=
  match Json.parse text with
  | none => (.malformed, c, s)
  | some document =>
    match Frame.ofJson document with
    | .error _ => (.malformed, c, s)
    | .ok frame => frame.dispatch (typeOf document) c s

end Frame
end LiveLog
