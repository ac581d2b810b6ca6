import LiveLog.Config.Arguments
import LiveLog.Net.Endpoints
import LiveLog.Screen.Viewer

/-!
# The program

Reads the command line and the settings, then the frames of a server from standard input, one a line, and
shows the screen of the viewer as it is after the last of them.
-/

namespace LiveLog.Program

/-- The text of a file, or why there is none. -/
def readText (path : String) : IO (Except String String) := do
  try
    let text ← IO.FS.readFile path
    return .ok text
  catch e => return .error (toString e)

/-- Passes the lines of a stream to the viewer as frames. -/
partial def readFrames (input : IO.FS.Stream) (v : Viewer) : IO Viewer := do
  let line ← input.getLine
  if line.isEmpty then return v
  readFrames input (v.handleFrame line.trimAscii.toString)

/-- Shows a screen. -/
def print (c : Canvas) : IO Unit :=
  c.rows.forM fun row => IO.println (Cell.printed row)

/-- Runs the viewer with some settings on a screen of a size. -/
def run (s : Settings) (width height : Nat) : IO UInt32 := do
  match Endpoints.ofServer s.server with
  | .error e =>
    IO.eprintln ("Error: Cannot connect to " ++ s.server ++ ": " ++ e.message)
    return 1
  | .ok _ =>
    let v ← readFrames (← IO.getStdin) (Viewer.new s)
    print (v.render width height).1
    return 0

end LiveLog.Program

open LiveLog in
/-- The program. -/
def main (words : List String) : IO UInt32 := do
  match Arguments.parse words with
  | .error .help =>
    IO.print Arguments.helpText
    return 0
  | .error .version =>
    IO.print Arguments.versionText
    return 0
  | .error stop =>
    IO.eprintln stop.message
    return 2
  | .ok a =>
    let file ← a.config.mapM fun path => do return (path, ← Program.readText path)
    match Settings.load file a.overrides with
    | .error e =>
      IO.eprintln ("Error: " ++ e.message)
      return 1
    | .ok s => Program.run s 80 24
