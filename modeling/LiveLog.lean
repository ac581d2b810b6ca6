import LiveLog.Main
import LiveLog.Proofs.View.History
import LiveLog.Proofs.View.Tally
import LiveLog.Proofs.Router.Landing
import LiveLog.Proofs.Router.Halves
import LiveLog.Proofs.Viewer.Stimulus
import LiveLog.Proofs.Viewer.Snapshot
import LiveLog.Proofs.Viewer.Filtering
import LiveLog.Proofs.Correlator.Exchange
import LiveLog.Proofs.Correlator.Lane
import LiveLog.Proofs.Correlator.Settlement
import LiveLog.Proofs.Correlator.Register
import LiveLog.Proofs.Service.Fallback
import LiveLog.Proofs.Connection.Retry
import LiveLog.Proofs.Connection.Outage
import LiveLog.Proofs.Connection.Traffic
import LiveLog.Proofs.Connection.Session
import LiveLog.Proofs.Viewer.Confirmation
import LiveLog.Proofs.Json.RoundTrip
import LiveLog.Proofs.Router.Grammar
import LiveLog.Proofs.Router.Reply
import LiveLog.Proofs.Service.Transports
import LiveLog.Proofs.View.Search
import LiveLog.Proofs.View.Level
import LiveLog.Proofs.Viewer.Anchor
import LiveLog.Proofs.Log.Priority
import LiveLog.Proofs.Log.Written
import LiveLog.Proofs.Net.Endpoints
import LiveLog.Proofs.Connection.Calls
import LiveLog.Proofs.Viewer.Typing
import LiveLog.Proofs.Viewer.Redraw
import LiveLog.Proofs.Viewer.Standing
import LiveLog.Proofs.Config.Layers
import LiveLog.Proofs.Viewer.Queue
import LiveLog.Proofs.Screen.Inside
import LiveLog.Proofs.Screen.Table
import LiveLog.Proofs.Screen.Cut
import LiveLog.Proofs.Screen.Marks
import LiveLog.Proofs.Screen.Toasts
