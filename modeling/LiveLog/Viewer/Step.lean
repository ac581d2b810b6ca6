import LiveLog.Config.Settings
import LiveLog.Net.Connection
import LiveLog.Net.Router
import LiveLog.Viewer.Key
import LiveLog.Viewer.State

/-!
# What the viewer does

The viewer reacts to three things: an event of the connection, an action of the user, and the end of a
job that it started. Each reaction is one step, from a viewer to the next viewer, and lists the jobs
that the step starts. Jobs run on their own, and how a job ended comes back as a step of its own.

The log on the screen always shows through the filter that the viewer's choices amount to, since every
action that changes a choice sets the filter in the same step.
-/

namespace LiveLog

/-- **The viewer**: its settings, its state, the log, the requests that wait for a response, and the time zone that
    it runs in. -/
structure Viewer where
  settings : Settings
  state : ViewerState
  log : LogView
  correlator : Correlator := {}
  zone : Zone := .utc

/-- What messages call an operation. -/
def Operation.purpose : Operation → String
  | .fetchLogs .. => "load logs"
  | .fetchStats => "refresh stats"
  | .clearLogs => "clear server logs"
  | .fetchLogsByLevel _ => "load logs"
  | .downloadLogs _ => "download logs"

/-- **A job that the viewer starts.** The user does not hear about the failure of a quiet one. -/
structure Job where
  operation : Operation
  quiet : Bool := false
deriving DecidableEq, Repr

/-- **How a job ended.** -/
inductive Finished where
  | logsLoaded (records : List Record)
  | statsLoaded (snapshot : Stats)
  | serverCleared
  /-- A download was to be saved at a path; `trouble` says why it could not be. -/
  | downloaded (path : String) (trouble : Option String)
  | failed (purpose : String) (error : ClientError) (quiet : Bool)
deriving DecidableEq, Repr

/-- What is left to do when the call of a job is over. -/
inductive Ending where
  | finished (how : Finished)
  /-- A file has to be saved first. -/
  | saving (download : Download)
deriving DecidableEq, Repr

/-- **How a job goes on after its call.** -/
def Job.ending (j : Job) : Outcome Answer → Ending
  | .ok (.logs records) => .finished (.logsLoaded records)
  | .ok (.stats snapshot) => .finished (.statsLoaded snapshot)
  | .ok .cleared => .finished .serverCleared
  | .ok (.file download) => .saving download
  | .error e => .finished (.failed j.operation.purpose e j.quiet)

namespace Viewer

/-- A viewer at the start. -/
def new (settings : Settings) (zone : Zone := .utc) : Viewer :=
  { settings
    zone
    state := ViewerState.new settings.server settings.notificationLifetime
    log := LogView.new settings.displayCap }

/-- The viewer with a message to the user. -/
def notify (v : Viewer) (kind : NotificationKind) (message : String) (now : Duration) : Viewer :=
  { v with state := v.state.notify kind message now }

/-- The viewer with its log shown through the chosen filter. -/
def applyFilter (v : Viewer) : Viewer := { v with log := v.log.setFilter v.state.filter }

/-- **The job that loads the log**: the chosen level of it, or else the newest records. -/
def loadLogs (v : Viewer) : Job :=
  match v.state.level with
  | some level => { operation := .fetchLogsByLevel level }
  | none => { operation := .fetchLogs v.settings.snapshotLimit 0 }

/-- The job that looks at the statistics every now and then. -/
def pollStats : Job := { operation := .fetchStats, quiet := true }

/-! ## 1. Events of the connection -/

/-- A frame is routed. -/
def handleFrame (v : Viewer) (text : String) : Viewer :=
  let (routed, correlator, log) := Frame.route text v.correlator v.log
  let state := if routed = .log then v.state.recordArrived log.newestIsVisible else v.state
  { v with correlator, log, state := if routed.touches then state.touch else state }

/-- **The reaction to an event of the connection.** -/
def handleTransport (v : Viewer) (now : Duration) : TransportEvent → Viewer × List Job
  | .frame text => (v.handleFrame text, [])
  | .reconnectScheduled attempt most _ => ({ v with state := v.state.setReconnect attempt most }, [])
  | .stateChanged c =>
    let wasOpen := v.state.connection.isOpen
    let v := { v with state := v.state.setConnection c }
    match c with
    | .connecting => (v, [])
    | .open => (v.notify .success "Connected" now, [v.loadLogs])
    | .closed | .errored => (if wasOpen then v.notify .warning "Connection lost" now else v, [])
    | .failed => (v.notify .error "Live updates unavailable, using HTTP" now, [v.loadLogs])

/-! ## 2. Ends of jobs -/

/-- Where a download is saved: in the directory of the settings, under its name for the day. -/
def downloadPath (s : Settings) (d : Download) (day : Date) : String :=
  if s.downloadDir.isEmpty || s.downloadDir.endsWith "/" then s.downloadDir ++ d.fileName day
  else s.downloadDir ++ "/" ++ d.fileName day

/-- **The reaction to the end of a job.** -/
def handleFinished (v : Viewer) (now : Duration) (f : Finished) : Viewer :=
  let v := { v with state := v.state.touch }
  match f with
  | .logsLoaded records =>
    notify { v with log := v.log.replaceWith records, state := { v.state with scroll := 0 } }
      .info ("Loaded " ++ toString records.length ++ " logs") now
  | .statsLoaded snapshot => { v with log := v.log.ingestStats snapshot }
  | .serverCleared => notify { v with log := v.log.clear } .success "Server logs cleared" now
  | .downloaded path none => v.notify .success ("Saved " ++ path) now
  | .downloaded path (some trouble) =>
    v.notify .error ("Failed to save " ++ path ++ ": " ++ trouble) now
  | .failed purpose error quiet =>
    if quiet then v
    else v.notify .error ("Failed to " ++ purpose ++ ": " ++ error.message) now

/-! ## 3. Actions of the user -/

/-- The rows of a page. -/
def page : Nat := 20

/-- **The reaction to an action of the user.** Any action but a press of the deleting key makes the
    viewer forget the first press of it. -/
def handleAction (v : Viewer) (now : Duration) (a : Action) : Viewer × List Job :=
  let s := v.state.touch
  let s := if a = .clearServerLogs then s else s.disarmClear
  let still (s : ViewerState) : Viewer × List Job := ({ v with state := s }, [])
  let filtered (s : ViewerState) : Viewer × List Job := (applyFilter { v with state := s }, [])
  match a with
  | .quit => still { s with quitting := true }
  | .toggleHelp => still { s with helpShown := !s.helpShown }
  | .dismiss =>
    if s.helpShown then still { s with helpShown := false }
    else still { s with notifications := s.notifications.dismiss.2 }
  | .openSearch => still s.openSearch
  | .closeSearch => still s.closeSearch
  | .searchInput c => still (s.typeChar c)
  | .searchBackspace => still s.eraseChar
  | .searchClear => still s.eraseSearch
  | .applyFilter => filtered { s.acceptSearch with scroll := 0 }
  | .clearFilter => filtered s.clearFilter
  | .cycleLevelFilter => filtered s.cycleLevel
  | .cycleCategoryFilter => filtered s.cycleCategory
  | .scrollUp rows => still (s.scrollUp rows)
  | .scrollDown rows => still (s.scrollDown rows)
  | .pageUp => still (s.scrollUp page)
  | .pageDown => still (s.scrollDown page)
  | .scrollToTop => still { s with scroll := 0, following := true }
  | .scrollToBottom => still { s with scroll := ViewerState.furthestScroll, following := false }
  | .toggleAutoScroll => still { s with following := !s.following }
  | .clearView =>
    ({ v with log := v.log.clear,
              state := { s with scroll := 0 }.notify .info "View cleared" now }, [])
  | .refreshLogs => ({ v with state := s }, [v.loadLogs])
  | .refreshStats => ({ v with state := s }, [{ operation := .fetchStats }])
  | .clearServerLogs =>
    let (confirmed, s) := s.confirmClear now
    ({ v with state := s }, if confirmed then [{ operation := .clearLogs }] else [])
  | .download format =>
    ({ v with state := s.notify .info ("Downloading " ++ format.name ++ " logs...") now },
      [{ operation := .downloadLogs format }])
  | .render => still s

/-- **What a key press tells the viewer**: while a search is being typed, most keys are part of it. -/
def keyAction? (v : Viewer) (k : KeyPress) : Option Action :=
  if v.state.searching then k.searchAction? else KeyContext.logTable.action? k

/-- Time passes: messages whose lifetime is over go. -/
def tick (v : Viewer) (now : Duration) : Viewer :=
  { v with state := (v.state.expireNotifications now).2 }

end Viewer
end LiveLog
