import LiveLog.Config.Settings

/-!
# The command line

Options come as `--name value` or `--name=value`, some also as one letter, whose value may follow at
once. Nothing may be given twice, and there is nothing but options.

A value is only looked at when the next known option or the end of the line is reached, unless it is
attached to its name. So a word that is no option is reported before a bad value right in front of it.
-/

namespace LiveLog

/-- The options that take a value. -/
inductive CliOption where
  | server
  | config
  | logFile
  | displayCap
  | pollInterval
  | requestTimeout
  | downloadDir
deriving DecidableEq, Repr

/-- What the values of an option are. -/
inductive CliValue where
  | text
  /-- A path is not empty. -/
  | path
  /-- A number fits an unsigned word. -/
  | number
deriving DecidableEq, Repr

namespace CliOption

/-- All options, as the help lists them. -/
def all : List CliOption :=
  [.server, .config, .logFile, .displayCap, .pollInterval, .requestTimeout, .downloadDir]

/-- The name of an option. -/
def name : CliOption → String
  | .server => "server"
  | .config => "config"
  | .logFile => "log-file"
  | .displayCap => "display-cap"
  | .pollInterval => "poll-interval-ms"
  | .requestTimeout => "request-timeout-ms"
  | .downloadDir => "download-dir"

/-- The letter of an option. -/
def letter? : CliOption → Option Char
  | .server => some 's'
  | .config => some 'c'
  | _ => none

/-- How the help calls the value of an option. -/
def valueName : CliOption → String
  | .server => "URL"
  | .config => "PATH"
  | .logFile => "PATH"
  | .displayCap => "DISPLAY_CAP"
  | .pollInterval => "POLL_INTERVAL_MS"
  | .requestTimeout => "REQUEST_TIMEOUT_MS"
  | .downloadDir => "DIR"

/-- What the help says about an option. -/
def description : CliOption → String
  | .server => "Server address, e.g. http://127.0.0.1:8080 (overrides the config file)"
  | .config => "TOML config file"
  | .logFile => "Diagnostics file [default: logwire.log in the temp directory]"
  | .displayCap => "Records kept in the log table"
  | .pollInterval => "Stats refresh period in milliseconds"
  | .requestTimeout => "Request timeout in milliseconds"
  | .downloadDir => "Directory for downloaded log files"

/-- What the values of an option are. -/
def value : CliOption → CliValue
  | .server => .text
  | .config | .logFile | .downloadDir => .path
  | .displayCap | .pollInterval | .requestTimeout => .number

end CliOption

/-- Why the command line does not lead to a run. -/
inductive CliStop where
  | help
  | version
  /-- A word that is no option, or an option that is not known. -/
  | unknown
  /-- An option has no value, or an empty one where that is none. -/
  | noValue
  | badNumber
  | repeated
  /-- A value is attached to an option that takes none. -/
  | extraValue
deriving DecidableEq, Repr

/-- What a user is told who made a mistake. -/
def CliStop.message : CliStop → String
  | .help => ""
  | .version => ""
  | .unknown => "error: unexpected argument"
  | .noValue => "error: an option lacks its value"
  | .badNumber => "error: an option needs a number"
  | .repeated => "error: an option is given more than once"
  | .extraValue => "error: an option takes no value"

/-- **The arguments of a run.** -/
structure Arguments where
  config : Option String := none
  logFile : Option String := none
  overrides : Overrides := {}
deriving DecidableEq, Repr

namespace Arguments

/-! ## 1. Values -/

/-- The number that a text writes in decimal digits, after a plus sign if need be. -/
def number? (text : String) : Option Nat :=
  let ds := match text.toList with
    | '+' :: ds => ds
    | ds => ds
  if ds.isEmpty || !ds.all Char.isDigit then none
  else
    let n := ds.foldl (fun n c => n * 10 + (c.toNat - '0'.toNat)) 0
    if n ≤ maxWord then some n else none

/-- The options whose values are accepted, in order. -/
abbrev Accepted := List (CliOption × String)

/-- **Accepts an option with its value**, or says what is wrong first: that there is no value, that the
    option was given before, or that the value is none of its kind. -/
def accept (taken : Accepted) (option : CliOption) : Option String → Except CliStop Accepted
  | none => .error .noValue
  | some text =>
    if taken.any (·.1 == option) then .error .repeated
    else
      match option.value with
      | .text => .ok (taken ++ [(option, text)])
      | .path => if text.isEmpty then .error .noValue else .ok (taken ++ [(option, text)])
      | .number =>
        if (number? text).isSome then .ok (taken ++ [(option, text)]) else .error .badNumber

/-! ## 2. Words -/

/-- Where the reader of a line stands: the accepted options, and an option that is still to be accepted,
    with its value if that was read. -/
structure Draft where
  taken : Accepted := []
  pending : Option (CliOption × Option String) := none

namespace Draft

/-- Accepts the option that is still to be. -/
def settle (d : Draft) : Except CliStop Draft :=
  match d.pending with
  | none => .ok d
  | some (option, value) => (accept d.taken option value).map fun taken => { taken }

/-- An option was read, with its value if that is attached. -/
def option (d : Draft) (option : CliOption) (value : Option String) : Except CliStop Draft := do
  let d ← d.settle
  match value with
  | some _ => ({ d with pending := some (option, value) } : Draft).settle
  | none => pure { d with pending := some (option, none) }

/-- A request to stop and show something was read. -/
def stop (d : Draft) (s : CliStop) : Except CliStop Draft := do
  let _ ← d.settle
  .error s

/-- A word that starts with two hyphens, without them. -/
def long (d : Draft) (word : List Char) : Except CliStop Draft :=
  let (nameChars, rest) := word.span (· != '=')
  let name := String.ofList nameChars
  let value := match rest with
    | _ :: text => some (String.ofList text)
    | [] => none
  match CliOption.all.find? (·.name == name) with
  | some o => d.option o value
  | none =>
    if name == "help" || name == "version" then
      if value.isSome then .error .extraValue
      else d.stop (if name == "help" then .help else .version)
    else .error .unknown

/-- A word of letters after one hyphen. The first of them decides, for none stands without effect. -/
def short (d : Draft) : List Char → Except CliStop Draft
  | [] => .ok d
  | c :: rest =>
    match CliOption.all.find? (·.letter? == some c) with
    | some o =>
      match rest with
      | [] => d.option o none
      | '=' :: text => d.option o (some (String.ofList text))
      | text => d.option o (some (String.ofList text))
    | none =>
      if c == 'h' then d.stop .help
      else if c == 'V' then d.stop .version
      else .error .unknown

/-- A word that is no option: the value of the option that waits for one, or nothing known. -/
def plain (d : Draft) (word : List Char) : Except CliStop Draft :=
  match d.pending with
  | some (o, none) => .ok { d with pending := some (o, some (String.ofList word)) }
  | _ => .error .unknown

/-- A word before `--`. -/
def word (d : Draft) (cs : List Char) : Except CliStop Draft :=
  match cs with
  | '-' :: '-' :: rest => d.long rest
  | '-' :: c :: rest => d.short (c :: rest)
  | cs => d.plain cs

/-- The words of a line. After `--` nothing is an option any more. -/
def words (d : Draft) : List String → Except CliStop Draft
  | [] => d.settle
  | "--" :: [] => d.settle
  | "--" :: _ :: _ => .error .unknown
  | w :: ws => do words (← d.word w.toList) ws

end Draft

/-- The arguments in a list of accepted options. -/
def ofAccepted (taken : Accepted) : Arguments :=
  let text (o : CliOption) : Option String := taken.lookup o
  let number (o : CliOption) : Option Nat := (text o).bind number?
  { config := text .config
    logFile := text .logFile
    overrides :=
      { server := text .server, displayCap := number .displayCap,
        pollIntervalMs := number .pollInterval, requestTimeoutMs := number .requestTimeout,
        downloadDir := text .downloadDir } }

/-- **The arguments in the words of a command line.** -/
def parse (line : List String) : Except CliStop Arguments :=
  (Draft.words {} line).map fun d => ofAccepted d.taken

/-! ## 3. What is shown -/

/-- A line of the help and what it says. -/
def helpEntry (letter : Option Char) (name description : String) : String :=
  (match letter with
   | some c => "  -" ++ String.singleton c ++ ", --"
   | none => "      --") ++ name ++ "\n          " ++ description ++ "\n"

/-- The text of the help. -/
def helpText : String :=
  "Logwire - A terminal viewer for live server logs\n\nUsage: logwire [OPTIONS]\n\nOptions:\n" ++
    String.join (CliOption.all.map fun o =>
      helpEntry o.letter? (o.name ++ " <" ++ o.valueName ++ ">") o.description) ++
    helpEntry (some 'h') "help" "Print help" ++ helpEntry (some 'V') "version" "Print version"

/-- The text of the version. -/
def versionText : String := "logwire 0.1.0\n"

/-- Where diagnostics go: to the given file, or to one in the directory for temporary files. -/
def logPath (a : Arguments) (tempDir : String) : String := a.logFile.getD (tempDir ++ "/logwire.log")

end Arguments
end LiveLog
