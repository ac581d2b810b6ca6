import LiveLog.Config.Toml.Document
import LiveLog.Net.ClientConfig
import LiveLog.View.Buffer

/-!
# Settings

What a viewer can be told: defaults first, then what a settings file says, then what the command line
says. A file has to make sense on its own, before anything overrides it, and the result has to make
sense again.
-/

namespace LiveLog

/-- **The settings of a viewer.** -/
structure Settings where
  server : String := "http://127.0.0.1:8080"
  reconnect : BackoffConfig := {}
  requestTimeoutMs : Nat := 10000
  /-- The time between two looks at the statistics. -/
  pollIntervalMs : Nat := 5000
  /-- How many records the view keeps. -/
  displayCap : Nat := LogView.defaultCap
  /-- How long a notification is shown. -/
  notificationMs : Nat := 3000
  /-- How many records are asked for when the view is loaded. -/
  snapshotLimit : Nat := 100
  /-- Where log files are saved. -/
  downloadDir : String := "."

/-- What is wrong with settings. -/
inductive SettingsFault where
  | displayCap
  | pollInterval
  | requestTimeout
  | reconnect (fault : BackoffFault)

/-- The wording of a fault. -/
def SettingsFault.message : SettingsFault → String
  | .displayCap => "display_cap must be at least 1"
  | .pollInterval => "poll_interval_ms must be greater than 0"
  | .requestTimeout => "request_timeout_ms must be greater than 0"
  | .reconnect fault => fault.message

/-- What the command line says; it says nothing about settings that are absent here. -/
structure Overrides where
  server : Option String := none
  displayCap : Option Nat := none
  pollIntervalMs : Option Nat := none
  requestTimeoutMs : Option Nat := none
  downloadDir : Option String := none
deriving DecidableEq, Repr

/-- Why there are no settings. -/
inductive SettingsError where
  /-- The file cannot be read; the reason is the system's. -/
  | unreadable (path reason : String)
  /-- The file is no settings file. -/
  | malformed (path : String)
  /-- The settings of the file make no sense. -/
  | invalidFile (path : String) (fault : SettingsFault)
  /-- The settings with what overrides them make no sense. -/
  | invalid (fault : SettingsFault)

/-- The wording of a failure to get settings. -/
def SettingsError.message : SettingsError → String
  | .unreadable path reason => "Failed to read config file " ++ path ++ ": " ++ reason
  | .malformed path => "Invalid config file " ++ path
  | .invalidFile path fault => "Invalid config file " ++ path ++ ": " ++ fault.message
  | .invalid fault => fault.message

/-! ## 1. From a file -/

namespace BackoffConfig

/-- The timing of reconnects from a file: a table, whose unknown members are ignored, or an array of its
    members in their declared order. -/
def ofToml? : Toml → Option BackoffConfig
  | .table _ ms => ofMembers ms
  | .moment => some {}
  | .array xs => do
    let d : BackoffConfig := {}
    let maxAttempts ← Toml.elementOr xs 0 d.maxAttempts (Toml.natural? 0xFFFFFFFF)
    let baseDelayMs ← Toml.elementOr xs 1 d.baseDelayMs (Toml.natural? maxWord)
    let multiplier ← Toml.elementOr xs 2 d.multiplier Toml.double?
    let maxDelayMs ← Toml.elementOr xs 3 d.maxDelayMs (Toml.natural? maxWord)
    some { maxAttempts, baseDelayMs, multiplier, maxDelayMs }
  | _ => none
where
  /-- The timing in the members of a table. -/
  ofMembers (ms : Toml.Members) : Option BackoffConfig := do
    let d : BackoffConfig := {}
    let maxAttempts ← Toml.memberOr ms "max_attempts" d.maxAttempts (Toml.natural? 0xFFFFFFFF)
    let baseDelayMs ← Toml.memberOr ms "base_delay_ms" d.baseDelayMs (Toml.natural? maxWord)
    let multiplier ← Toml.memberOr ms "multiplier" d.multiplier Toml.double?
    let maxDelayMs ← Toml.memberOr ms "max_delay_ms" d.maxDelayMs (Toml.natural? maxWord)
    some { maxAttempts, baseDelayMs, multiplier, maxDelayMs }

end BackoffConfig

namespace Settings

/-- The names that a settings file may use. -/
def names : List String :=
  ["server", "reconnect", "request_timeout_ms", "poll_interval_ms", "display_cap", "notification_ms",
    "snapshot_limit", "download_dir"]

/-- **The settings of a file**: what it says, and the defaults for the rest. Other names are refused. -/
def ofMembers? (ms : Toml.Members) : Option Settings := do
  if ms.all fun m => names.contains m.1 then
    let d : Settings := {}
    let word := Toml.natural? maxWord
    let server ← Toml.memberOr ms "server" d.server Toml.text?
    let reconnect ← Toml.memberOr ms "reconnect" d.reconnect BackoffConfig.ofToml?
    let requestTimeoutMs ← Toml.memberOr ms "request_timeout_ms" d.requestTimeoutMs word
    let pollIntervalMs ← Toml.memberOr ms "poll_interval_ms" d.pollIntervalMs word
    let displayCap ← Toml.memberOr ms "display_cap" d.displayCap word
    let notificationMs ← Toml.memberOr ms "notification_ms" d.notificationMs word
    let snapshotLimit ← Toml.memberOr ms "snapshot_limit" d.snapshotLimit word
    let downloadDir ← Toml.memberOr ms "download_dir" d.downloadDir Toml.text?
    some { server, reconnect, requestTimeoutMs, pollIntervalMs, displayCap, notificationMs,
           snapshotLimit, downloadDir }
  else none

/-- **What is wrong with settings, if anything.** -/
def fault? (s : Settings) : Option SettingsFault :=
  if s.displayCap = 0 then some .displayCap
  else if s.pollIntervalMs = 0 then some .pollInterval
  else if s.requestTimeoutMs = 0 then some .requestTimeout
  else s.reconnect.fault?.map .reconnect

/-- Settings that make sense, or what is wrong with them. -/
def checked {ε : Type} (s : Settings) (wrap : SettingsFault → ε) : Except ε Settings :=
  match s.fault? with
  | none => .ok s
  | some fault => .error (wrap fault)

/-- What reading the text of a file comes to: it is no settings file, or its settings make no sense. -/
def ofText (text : String) : Except (Option SettingsFault) Settings :=
  match (Toml.parse text).bind ofMembers? with
  | none => .error none
  | some s => s.checked some

/-! ## 2. From the command line -/

/-- The settings with what overrides them. -/
def override (s : Settings) (o : Overrides) : Settings :=
  { s with
    server := o.server.getD s.server
    displayCap := o.displayCap.getD s.displayCap
    pollIntervalMs := o.pollIntervalMs.getD s.pollIntervalMs
    requestTimeoutMs := o.requestTimeoutMs.getD s.requestTimeoutMs
    downloadDir := o.downloadDir.getD s.downloadDir }

/-- **The settings of a viewer**: of the file, if there is one, and of the command line. The text of the
    file comes with its path, or with the reason why it cannot be read. -/
def load (file : Option (String × Except String String)) (o : Overrides) :
    Except SettingsError Settings := do
  let base ← match file with
    | none => pure {}
    | some (path, .error reason) => .error (.unreadable path reason)
    | some (path, .ok text) =>
      match ofText text with
      | .ok s => pure s
      | .error none => .error (.malformed path)
      | .error (some fault) => .error (.invalidFile path fault)
  (base.override o).checked .invalid

/-- The configuration of the client. -/
def client (s : Settings) : ClientConfig :=
  { server := s.server, reconnect := s.reconnect, requestTimeoutMs := s.requestTimeoutMs }

/-- The time between two looks at the statistics. -/
def pollInterval (s : Settings) : Duration := .ofMillis s.pollIntervalMs

/-- How long a notification is shown. -/
def notificationLifetime (s : Settings) : Duration := .ofMillis s.notificationMs

end Settings
end LiveLog
