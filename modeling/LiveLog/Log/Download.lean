import LiveLog.Json.Decode
import LiveLog.Time.Calendar

/-!
# Downloaded log files

The two formats in which a server hands out its whole log, and a file in one of them.
-/

namespace LiveLog

/-- The format of a downloaded log file. -/
inductive LogFormat where
  | html
  | txt
deriving DecidableEq, Repr

namespace LogFormat

/-- The name of a format, which is also the ending of its files. -/
def name : LogFormat → String
  | .html => "html"
  | .txt => "txt"

/-- The content type of a file when the server names none. -/
def contentType : LogFormat → String
  | .html => "text/html"
  | .txt => "text/plain"

/-- The written formats. -/
def choices : List (String × LogFormat) := [("html", .html), ("txt", .txt)]

/-- A format from a document. -/
def ofJson : Json → Decoded LogFormat := Json.asChoice choices

end LogFormat

/-- A downloaded log file. -/
structure Download where
  format : LogFormat
  contentType : String
  bytes : List UInt8
deriving DecidableEq, Repr

/-- **The name a download is saved under**, by the day it is saved on. -/
def Download.fileName (d : Download) (day : Date) : String :=
  "logs_" ++ day.text ++ "." ++ d.format.name

/-- The data of an answer to a download request. -/
structure DownloadPayload where
  content : String
  contentType : Option String
deriving DecidableEq, Repr

namespace DownloadPayload

/-- The name that messages about a malformed payload use. -/
def shapeName : String := "DownloadPayload"

/-- A payload from a document. -/
def ofJson : Json → Decoded DownloadPayload
  | .object ms => do
    let content ← Json.member? ms "content" Json.asText
    let contentType ← Json.member? ms "contentType" (Json.asOptional Json.asText)
    let content ← Json.required "content" content
    pure { content, contentType := contentType.join }
  | .array xs => do
    let content ← Json.requiredElement shapeName 2 0 (← Json.element? xs 0 Json.asText)
    let contentType ← Json.element? xs 1 (Json.asOptional Json.asText)
    Json.noMoreThan xs 2
    pure { content, contentType := contentType.join }
  | x => x.wrongType (.structure shapeName)

/-- The members of a payload, for reading one straight from text. -/
def shape : Shape := .record [("content", .whole), ("contentType", .whole)]

end DownloadPayload
end LiveLog
